import WerTe.Carts
import WerTe.JsStrings
import WerTe.Sorted.Canonical
import WerTe.StoreDiscovery
import WerTe.Words.Joined

/-!
# Signatures of variant combinations

`item-variant-combination.util.ts`: the merchants' service, the cart and the checkout look a
combination up by a text that is made of the ids of its options. As long as no id has the separator
in it, two lists of ids have the same signature just when they stand for the same set
(`signature_canonical`).

Elsewhere an option is its number, and the signature is that of its decimal digits. Both tell the
same selections apart (`signature_map_toString_eq_iff`).
-/

namespace WerTe.VariantSignatures

open DiscoveryCache (utf16)

/-! ## The code units -/

/-- A character is no surrogate. -/
theorem toNat_valid (c : Char) :
    c.toNat < 0xD800 ∨ (0xDFFF < c.toNat ∧ c.toNat < 0x110000) := c.valid

/-- The code units of a character and of what follows it can be told apart. -/
theorem utf16_inj {s t : String} : utf16 s = utf16 t ↔ s = t := by
  refine ⟨fun h => String.toList_inj.mp ?_, fun h => h ▸ rfl⟩
  rw [utf16, utf16] at h
  generalize s.toList = l at h ⊢
  generalize t.toList = l' at h ⊢
  induction l generalizing l' with
  | nil =>
    cases l' with
    | nil => rfl
    | cons d l' =>
      rw [List.flatMap_nil, List.flatMap_cons] at h
      split at h <;> cases h
  | cons c l ih =>
    cases l' with
    | nil =>
      rw [List.flatMap_nil, List.flatMap_cons] at h
      split at h <;> cases h
    | cons d l' =>
      have hc := toNat_valid c
      have hd := toNat_valid d
      -- one unit or two, and no unit is the first of two
      rw [List.flatMap_cons, List.flatMap_cons] at h
      split at h <;> split at h <;>
        simp only [List.cons_append, List.nil_append, List.cons.injEq] at h
      · rw [ih _ h.2, Char.toNat_inj.mp h.1]
      · omega
      · omega
      · obtain ⟨hhigh, hlow, hrest⟩ := h
        have heq : c.toNat = d.toNat := by omega
        rw [ih _ hrest, Char.toNat_inj.mp heq]

instance : Std.Antisymm fun left right : String => utf16 left ≤ utf16 right :=
  ⟨fun _ _ hle hle' => utf16_inj.mp (le_antisymm hle hle')⟩

/-! ## The signature -/

/-- `optionId.trim()`, without the empty ones. -/
def normalizedOptionIds (optionIds : List String) : List String :=
  (optionIds.map trim).filter fun optionId => optionId.length != 0

def buildVariantCombinationSignature (optionIds : List String) : String :=
  "|".intercalate ((normalizedOptionIds optionIds).eraseDups.insertionSort
    fun left right => utf16 left ≤ utf16 right)

/-- The ids that a list stands for. -/
def denotedIds (optionIds : List String) : Set String :=
  {id | id ≠ "" ∧ ∃ optionId ∈ optionIds, trim optionId = id}

variable {optionIds optionIds' : List String}

theorem mem_normalizedOptionIds {id : String} :
    id ∈ normalizedOptionIds optionIds ↔ id ∈ denotedIds optionIds := by
  simp [normalizedOptionIds, denotedIds, and_comm]

/-- Nothing else is added to an id when it is trimmed. -/
theorem mem_toList_trim {s : String} {c : Char} (h : c ∈ (trim s).toList) : c ∈ s.toList := by
  rw [trim_eq, String.toList_ofList] at h
  exact (List.dropWhile_suffix isJsSpace).subset ((List.rdropWhile_prefix isJsSpace _).subset h)

/-- An id without the separator can be told from the signature. -/
theorem joinable_of_mem_denotedIds (h : ∀ optionId ∈ optionIds, '|' ∉ optionId.toList)
    {id : String} (hid : id ∈ denotedIds optionIds) : Words.Joinable '|' id.toList := by
  obtain ⟨hne, optionId, hoptionId, rfl⟩ := hid
  exact ⟨fun hnil => hne (String.toList_eq_nil_iff.mp hnil),
    fun hmem => h optionId hoptionId (mem_toList_trim hmem)⟩

/-- What is joined is the ids that the list stands for. -/
theorem mem_sorted {id : String} :
    id ∈ (normalizedOptionIds optionIds).eraseDups.insertionSort
        (fun left right => utf16 left ≤ utf16 right) ↔ id ∈ denotedIds optionIds := by
  rw [List.mem_insertionSort, List.mem_eraseDups, mem_normalizedOptionIds]

/-- Lists that stand for the same ids are sorted alike. -/
theorem sorted_eq_iff :
    (normalizedOptionIds optionIds).eraseDups.insertionSort
        (fun left right => utf16 left ≤ utf16 right) =
      (normalizedOptionIds optionIds').eraseDups.insertionSort
        (fun left right => utf16 left ≤ utf16 right) ↔
      denotedIds optionIds = denotedIds optionIds' := by
  rw [Sorted.insertionSort_eq_iff _ (Sorted.nodup_eraseDups _) (Sorted.nodup_eraseDups _),
    Set.ext_iff]
  simp only [List.mem_eraseDups, mem_normalizedOptionIds]

/-- What ids a list stands for is all that its signature depends on. -/
theorem signature_of_denotedIds (h : denotedIds optionIds = denotedIds optionIds') :
    buildVariantCombinationSignature optionIds = buildVariantCombinationSignature optionIds' := by
  rw [buildVariantCombinationSignature, sorted_eq_iff.mpr h, buildVariantCombinationSignature]

theorem signature_eq_iff (h : ∀ optionId ∈ optionIds, '|' ∉ optionId.toList)
    (h' : ∀ optionId ∈ optionIds', '|' ∉ optionId.toList) :
    buildVariantCombinationSignature optionIds = buildVariantCombinationSignature optionIds' ↔
      denotedIds optionIds = denotedIds optionIds' := by
  rw [buildVariantCombinationSignature, buildVariantCombinationSignature,
    Words.string_intercalate_inj rfl
      (fun id hid => joinable_of_mem_denotedIds h (mem_sorted.mp hid))
      (fun id hid => joinable_of_mem_denotedIds h' (mem_sorted.mp hid)), sorted_eq_iff]

/-! ## What it does not depend on -/

theorem denotedIds_perm (h : optionIds.Perm optionIds') :
    denotedIds optionIds = denotedIds optionIds' := by
  ext id
  exact and_congr_right fun _ => exists_congr fun _ => and_congr_left fun _ => h.mem_iff

theorem denotedIds_cons_of_mem {optionId : String} (h : optionId ∈ optionIds) :
    denotedIds (optionId :: optionIds) = denotedIds optionIds := by
  ext id
  refine and_congr_right fun _ => ⟨?_, ?_⟩
  · rintro ⟨other, hother, htrim⟩
    rcases List.mem_cons.mp hother with rfl | hother
    · exact ⟨other, h, htrim⟩
    · exact ⟨other, hother, htrim⟩
  · rintro ⟨other, hother, htrim⟩
    exact ⟨other, List.mem_cons_of_mem _ hother, htrim⟩

theorem denotedIds_of_map_trim (h : optionIds.map trim = optionIds'.map trim) :
    denotedIds optionIds = denotedIds optionIds' := by
  ext id
  refine and_congr_right fun _ => ?_
  rw [← List.mem_map, h, List.mem_map]

theorem denotedIds_cons_of_trim_eq_empty {optionId : String} (h : trim optionId = "") :
    denotedIds (optionId :: optionIds) = denotedIds optionIds := by
  ext id
  refine and_congr_right fun hne => ⟨?_, ?_⟩
  · rintro ⟨other, hother, htrim⟩
    rcases List.mem_cons.mp hother with rfl | hother
    · exact absurd (htrim.symm.trans h) hne
    · exact ⟨other, hother, htrim⟩
  · rintro ⟨other, hother, htrim⟩
    exact ⟨other, List.mem_cons_of_mem _ hother, htrim⟩

/-- **The signature is that of the set of ids that the list stands for**, whatever their order, how
often they are repeated, what blanks surround them and what empty ids are among them. -/
theorem signature_canonical (optionIds optionIds' : List String)
    (h : ∀ optionId ∈ optionIds, '|' ∉ optionId.toList)
    (h' : ∀ optionId ∈ optionIds', '|' ∉ optionId.toList) :
    (buildVariantCombinationSignature optionIds = buildVariantCombinationSignature optionIds' ↔
        denotedIds optionIds = denotedIds optionIds') ∧
      (∀ reordered : List String, reordered.Perm optionIds →
        buildVariantCombinationSignature reordered =
          buildVariantCombinationSignature optionIds) ∧
      (∀ optionId ∈ optionIds, buildVariantCombinationSignature (optionId :: optionIds) =
        buildVariantCombinationSignature optionIds) ∧
      (∀ blanked : List String, blanked.map trim = optionIds.map trim →
        buildVariantCombinationSignature blanked = buildVariantCombinationSignature optionIds) ∧
      ∀ blank, trim blank = "" → buildVariantCombinationSignature (blank :: optionIds) =
        buildVariantCombinationSignature optionIds :=
  ⟨signature_eq_iff h h',
    fun _ hperm => signature_of_denotedIds (denotedIds_perm hperm),
    fun _ hmem => signature_of_denotedIds (denotedIds_cons_of_mem hmem),
    fun _ htrim => signature_of_denotedIds (denotedIds_of_map_trim htrim),
    fun _ hblank => signature_of_denotedIds (denotedIds_cons_of_trim_eq_empty hblank)⟩

/-- A small red one, selected twice. -/
theorem signature_canonical_small_red :
    buildVariantCombinationSignature ["size_s", " color_red", "", "size_s "] =
        buildVariantCombinationSignature ["color_red", "size_s"] ↔
      denotedIds ["size_s", " color_red", "", "size_s "] = denotedIds ["color_red", "size_s"] :=
  (signature_canonical ["size_s", " color_red", "", "size_s "] ["color_red", "size_s"] (by decide)
    (by decide)).1

/-! ## Options by their numbers -/

theorem joinable_toString (id : Id) : Words.Joinable '|' (toString id).toList where
  ne_nil hnil := by simp at hnil
  separator_notMem := Numeral.notMem_toString rfl id

theorem toString_injective : Function.Injective (toString : Id → String) := fun _ _ h =>
  Numeral.toString_inj.mp (congrArg String.toList h)

/-- **Selections have the same signature just when they are of the same options.** -/
theorem idSignature_eq_iff {selected selected' : List Id} :
    WerTe.buildVariantCombinationSignature selected =
        WerTe.buildVariantCombinationSignature selected' ↔
      ∀ id, id ∈ selected ↔ id ∈ selected' := by
  have hjoinable : ∀ ids : List Id, ∀ word ∈ ids.map toString, Words.Joinable '|' word.toList := by
    intro ids word hword
    obtain ⟨id, -, rfl⟩ := List.mem_map.mp hword
    exact joinable_toString id
  rw [WerTe.buildVariantCombinationSignature, WerTe.buildVariantCombinationSignature,
    Words.string_intercalate_inj rfl (hjoinable _) (hjoinable _),
    (List.map_injective_iff.mpr toString_injective).eq_iff,
    Sorted.insertionSort_eq_iff _ (List.nodup_dedup _) (List.nodup_dedup _)]
  simp only [List.mem_dedup]

theorem mem_denotedIds_map_toString {selected : List Id} {id : String} :
    id ∈ denotedIds (selected.map toString) ↔ id ∈ selected.map toString := by
  constructor
  · rintro ⟨-, optionId, hoptionId, rfl⟩
    obtain ⟨selectedId, -, rfl⟩ := List.mem_map.mp hoptionId
    rwa [trim_toString]
  · intro hid
    obtain ⟨selectedId, -, rfl⟩ := List.mem_map.mp hid
    refine ⟨fun hempty => ?_, _, hid, trim_toString selectedId⟩
    exact (joinable_toString selectedId).ne_nil (String.toList_eq_nil_iff.mpr hempty)

/-- The signature of the numbers tells apart what that of their digits does. -/
theorem signature_map_toString_eq_iff {selected selected' : List Id} :
    buildVariantCombinationSignature (selected.map toString) =
        buildVariantCombinationSignature (selected'.map toString) ↔
      WerTe.buildVariantCombinationSignature selected =
        WerTe.buildVariantCombinationSignature selected' := by
  have hnoBar : ∀ ids : List Id, ∀ optionId ∈ ids.map toString, '|' ∉ optionId.toList := by
    intro ids optionId hoptionId
    obtain ⟨id, -, rfl⟩ := List.mem_map.mp hoptionId
    exact (joinable_toString id).separator_notMem
  rw [signature_eq_iff (hnoBar _) (hnoBar _), idSignature_eq_iff, Set.ext_iff]
  simp only [mem_denotedIds_map_toString]
  constructor
  · intro hsame id
    rw [← List.mem_map_of_injective toString_injective, hsame,
      List.mem_map_of_injective toString_injective]
  · intro hsame id
    simp only [List.mem_map, hsame]

end WerTe.VariantSignatures
