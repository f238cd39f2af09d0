import Mathlib.Data.List.Basic

/-!
# UTF-8 and base64url

The two encodings a signed token is written in, as far as the texts' beginnings are
concerned.

* `utf8`: the bytes of a text
* `Base64Url.encode`: four characters for three bytes, without padding

Bytes in threes are encoded apart from what follows them (`encode_append`), so texts that begin
alike are encoded alike up to there (`take_utf8_encode`).
-/

namespace WerTe

/-- The bytes of a text in UTF-8. -/
def utf8 (s : String) : List UInt8 := s.toList.flatMap String.utf8EncodeChar

theorem utf8_append (s t : String) : utf8 (s ++ t) = utf8 s ++ utf8 t := by
  simp [utf8, String.toList_append]

/-- Characters of one byte each. -/
theorem length_utf8 {s : String} (h : ∀ c ∈ s.toList, c.utf8Size = 1) :
    (utf8 s).length = s.length := by
  rw [utf8, List.length_flatMap, ← String.length_toList]
  have hmap : s.toList.map (fun c => (String.utf8EncodeChar c).length) = s.toList.map fun _ => 1 :=
    List.map_congr_left fun c hc => by rw [String.length_utf8EncodeChar, h c hc]
  rw [hmap]
  simp

namespace Base64Url

def alphabet : List Char :=
  "ABCDEFGHIJKLMNOPQRSTUVWXYZabcdefghijklmnopqrstuvwxyz0123456789-_".toList

/-- The character of six bits. -/
def digit (n : ℕ) : Char := alphabet.getD (n % 64) 'A'

theorem utf8Size_digit (n : ℕ) : (digit n).utf8Size = 1 := by
  have hall : ∀ i : Fin 64, (alphabet.getD i 'A').utf8Size = 1 := by decide +kernel
  exact hall ⟨n % 64, Nat.mod_lt n (by decide)⟩

def encode : List UInt8 → List Char
  | [] => []
  | [a] => [digit (a.toNat / 4), digit (a.toNat % 4 * 16)]
  | [a, b] =>
    [digit (a.toNat / 4), digit (a.toNat % 4 * 16 + b.toNat / 16), digit (b.toNat % 16 * 4)]
  | a :: b :: c :: rest =>
    digit (a.toNat / 4) :: digit (a.toNat % 4 * 16 + b.toNat / 16) ::
      digit (b.toNat % 16 * 4 + c.toNat / 64) :: digit (c.toNat % 64) :: encode rest

/-- Every character of an encoding is one byte. -/
theorem utf8Size_encode {bytes : List UInt8} {c : Char} (h : c ∈ encode bytes) :
    c.utf8Size = 1 := by
  induction bytes using encode.induct with
  | case1 => cases h
  | case2 a =>
    simp only [encode, List.mem_cons, List.not_mem_nil, or_false] at h
    rcases h with rfl | rfl <;> exact utf8Size_digit _
  | case3 a b =>
    simp only [encode, List.mem_cons, List.not_mem_nil, or_false] at h
    rcases h with rfl | rfl | rfl <;> exact utf8Size_digit _
  | case4 a b d rest ih =>
    simp only [encode, List.mem_cons] at h
    rcases h with rfl | rfl | rfl | rfl | h
    iterate 4 exact utf8Size_digit _
    exact ih h

/-- Whole groups of three bytes are encoded apart from what follows. -/
theorem encode_append {front : List UInt8} (back : List UInt8) {n : ℕ}
    (h : front.length = 3 * n) : encode (front ++ back) = encode front ++ encode back := by
  induction n generalizing front with
  | zero => simp [List.length_eq_zero_iff.mp h, encode]
  | succ n ih =>
    obtain _ | ⟨a, _ | ⟨b, _ | ⟨c, rest⟩⟩⟩ := front
    case cons.cons.cons =>
      have hrest : rest.length = 3 * n := by simp only [List.length_cons] at h; omega
      simp [encode, ih hrest]
    all_goals simp only [List.length_nil, List.length_cons] at h; omega

theorem length_encode {bytes : List UInt8} {n : ℕ} (h : bytes.length = 3 * n) :
    (encode bytes).length = 4 * n := by
  induction n generalizing bytes with
  | zero => simp [List.length_eq_zero_iff.mp h, encode]
  | succ n ih =>
    obtain _ | ⟨a, _ | ⟨b, _ | ⟨c, rest⟩⟩⟩ := bytes
    case cons.cons.cons =>
      have hrest : rest.length = 3 * n := by simp only [List.length_cons] at h; omega
      simp only [encode, List.length_cons, ih hrest]
      omega
    all_goals simp only [List.length_nil, List.length_cons] at h; omega

end Base64Url

/-- A text in base64url. -/
def base64Url (s : String) : String := .ofList (Base64Url.encode (utf8 s))

/-- A text whose beginning is `3 * n` bytes has a beginning of `4 * n` bytes in base64url. -/
theorem base64Url_append {front : String} (back : String) {n : ℕ}
    (h : (utf8 front).length = 3 * n) :
    base64Url (front ++ back) = base64Url front ++ base64Url back := by
  rw [base64Url, utf8_append, Base64Url.encode_append _ h, String.ofList_append]
  rfl

theorem length_utf8_base64Url {s : String} {n : ℕ} (h : (utf8 s).length = 3 * n) :
    (utf8 (base64Url s)).length = 4 * n := by
  rw [length_utf8, base64Url, String.length_ofList, Base64Url.length_encode h]
  intro c hc
  rw [base64Url, String.toList_ofList] at hc
  exact Base64Url.utf8Size_encode hc

end WerTe
