import WerTe.DiscoveryFreshness
import WerTe.Keyed.LastEntry

/-!
# Discovery through the cache

As long as nothing changes, customers are to find through the cache what they would find without
it. A list is cached under a text that is put together of the store types and the township that
are asked for, and a township or a code may be such that two questions have one text: the township
`all` and no township, for one. If filters that share their text ask the same, every query of
every run is answered as it would be without the cache (`discovery_transparent`); it is so when
no text that is asked for has what the key is put together with (`keysTell_of_plain`).
-/

namespace WerTe.CustomerStoreDiscovery

open ReadCommitted Cached StoreTypesRepository

/-! ## Runs -/

/-- The answers that queries get, one after the other, each with what it does with an entry that
will soon be forgotten. -/
def answers (rules : TextRules) : List (Bool × ListCustomerStoresQueryDto) → DiscoveryWorld →
    List (Except Failure DiscoverableBranches)
  | [], _ => []
  | (earlyExpiry, query) :: queries, world =>
    match findDiscoverableBranches rules earlyExpiry query world with
    | .ok found world' => .ok found :: answers rules queries world'
    | .error e world' => .error e :: answers rules queries world'

def lookups (queries : List (Bool × ListCustomerStoresQueryDto)) : List DiscoveryCall :=
  queries.map fun query => .find query.1 query.2

section Runs

variable {rules : TextRules} {asked : DiscoveryFilter → Prop}

/-- What each query of a run is answered, when the cache holds what there is. -/
theorem answers_eq (hapart : Apart (loadList rules) DiscoveryCache.listKey asked)
    (queries : List (Bool × ListCustomerStoresQueryDto))
    (hasked : ∀ query ∈ queries, DiscoveryCache.isCacheable (toFilter rules query.2) = true →
      asked (toFilter rules query.2)) :
    ∀ {world : DiscoveryWorld}, ListsFresh rules asked world →
      answers rules queries world =
        queries.map fun query => .ok (findUncached rules query.2 world.data) := by
  induction queries with
  | nil => exact fun _ => rfl
  | cons first queries ih =>
    obtain ⟨earlyExpiry, query⟩ := first
    intro world hfresh
    have hends := findDiscoverableBranches_ends hapart hfresh
      (hasked (earlyExpiry, query) List.mem_cons_self) earlyExpiry
    obtain ⟨found, world', hok, hfound, hdata, hfresh'⟩ | ⟨e, world', -, hfail, -⟩ := hends.result
    · have hrest := ih (fun query hquery => hasked query (List.mem_cons_of_mem _ hquery)) hfresh'
      cases hfound
      rw [answers, hok, List.map_cons]
      dsimp only
      rw [hrest, hdata]
    · cases hfail

end Runs

/-! ## Keys -/

/-- The texts that are asked for have nothing in them that the keys are put together with. -/
structure PlainQuestion (filter : DiscoveryFilter) : Prop where
  township : filter.township ≠ some "all"
  codes : ∀ storeTypeCodes, filter.storeTypeCodes = some storeTypeCodes →
    storeTypeCodes ≠ [] ∧ storeTypeCodes ≠ ["all"] ∧
      ∀ code ∈ storeTypeCodes, ',' ∉ code.toList ∧ ':' ∉ code.toList

theorem mem_intercalate {α : Type*} {a : α} {sep : List α} (ls : List (List α))
    (h : a ∈ sep.intercalate ls) : a ∈ sep ∨ ∃ l ∈ ls, a ∈ l := by
  induction ls with
  | nil => cases h
  | cons l ls ih =>
    cases ls with
    | nil =>
      rw [List.intercalate_singleton] at h
      exact .inr ⟨l, List.mem_cons_self, h⟩
    | cons l' ls =>
      rw [List.intercalate_cons_cons, List.mem_append, List.mem_append] at h
      obtain (hl | hsep) | hrest := h
      · exact .inr ⟨l, List.mem_cons_self, hl⟩
      · exact .inl hsep
      · exact (ih hrest).imp_right fun ⟨m, hm, ha⟩ => ⟨m, List.mem_cons_of_mem _ hm, ha⟩

section Keys

open DiscoveryCache

variable {filter filter' : DiscoveryFilter} {storeTypeCodes storeTypeCodes' : List String}

theorem mem_sortCodes {code : String} : code ∈ sortCodes storeTypeCodes ↔ code ∈ storeTypeCodes :=
  List.mem_insertionSort _

theorem toList_codesSegment (hne : storeTypeCodes ≠ []) :
    (codesSegment (some storeTypeCodes)).toList =
      [','].intercalate ((sortCodes storeTypeCodes).map String.toList) := by
  rw [codesSegment, if_pos (List.length_pos_iff.mpr hne), String.toList_intercalate]
  rfl

/-- The codes are read off their segment of the key. -/
theorem splitOn_codesSegment (hne : storeTypeCodes ≠ [])
    (hcomma : ∀ code ∈ storeTypeCodes, ',' ∉ code.toList) :
    (codesSegment (some storeTypeCodes)).toList.splitOn ',' =
      (sortCodes storeTypeCodes).map String.toList := by
  rw [toList_codesSegment hne]
  refine List.splitOn_intercalate ',' (fun l hl => ?_) fun hnil => hne ?_
  · obtain ⟨code, hcode, rfl⟩ := List.mem_map.mp hl
    exact hcomma code (mem_sortCodes.mp hcode)
  · exact List.eq_nil_iff_forall_not_mem.mpr fun code hcode => by
      have hsorted := mem_sortCodes.mpr hcode
      rw [List.map_eq_nil_iff.mp hnil] at hsorted
      cases hsorted

theorem colon_notMem_codesSegment (h : PlainQuestion filter) :
    ':' ∉ (codesSegment filter.storeTypeCodes).toList := by
  cases hcodes : filter.storeTypeCodes with
  | none => decide
  | some storeTypeCodes =>
    obtain ⟨hne, -, hplain⟩ := h.codes _ hcodes
    rw [toList_codesSegment hne]
    intro hmem
    obtain hsep | ⟨l, hl, hcolon⟩ := mem_intercalate _ hmem
    · cases List.mem_singleton.mp hsep
    · obtain ⟨code, hcode, rfl⟩ := List.mem_map.mp hl
      exact (hplain code (mem_sortCodes.mp hcode)).2 hcolon

/-- Codes that have no commas in them are the same when their segments are. -/
theorem sortCodes_inj (hne : storeTypeCodes ≠ []) (hne' : storeTypeCodes' ≠ [])
    (hcomma : ∀ code ∈ storeTypeCodes, ',' ∉ code.toList)
    (hcomma' : ∀ code ∈ storeTypeCodes', ',' ∉ code.toList)
    (h : codesSegment (some storeTypeCodes) = codesSegment (some storeTypeCodes')) :
    sortCodes storeTypeCodes = sortCodes storeTypeCodes' := by
  have hmap := splitOn_codesSegment hne hcomma
  rw [h, splitOn_codesSegment hne' hcomma'] at hmap
  exact (List.map_injective_iff.mpr (fun _ _ => String.toList_inj.mp) hmap).symm

/-- Plain codes are not taken for none. -/
theorem codesSegment_ne_all (hne : storeTypeCodes ≠ []) (hall : storeTypeCodes ≠ ["all"])
    (hcomma : ∀ code ∈ storeTypeCodes, ',' ∉ code.toList) :
    codesSegment (some storeTypeCodes) ≠ codesSegment none := by
  intro h
  have hsorted : sortCodes storeTypeCodes = sortCodes ["all"] :=
    sortCodes_inj hne (by decide) hcomma (by decide) (h.trans (by decide +kernel))
  refine hall (List.perm_singleton.mp ?_)
  exact (List.perm_insertionSort _ _).symm.trans (.of_eq hsorted)

theorem hasCode_eq_of_sortCodes (hcodes : filter.storeTypeCodes = some storeTypeCodes)
    (hcodes' : filter'.storeTypeCodes = some storeTypeCodes')
    (h : sortCodes storeTypeCodes = sortCodes storeTypeCodes') (code : String) :
    hasCode filter code = hasCode filter' code := by
  have hmem : code ∈ storeTypeCodes ↔ code ∈ storeTypeCodes' := by
    rw [← mem_sortCodes, h, mem_sortCodes]
  rw [hasCode, hasCode, hcodes, hcodes', Option.all_some, Option.all_some, Bool.eq_iff_iff,
    List.contains_iff_mem, List.contains_iff_mem, hmem]

theorem toList_listKey (filter : DiscoveryFilter) : (listKey filter).toList =
    "store-discovery:list:".toList ++ ((codesSegment filter.storeTypeCodes).toList ++
      ':' :: (filter.township.getD "all").toList) := by
  have hkey : listKey filter = "store-discovery:list:" ++ codesSegment filter.storeTypeCodes ++
      ":" ++ filter.township.getD "all" := rfl
  have hcolon : ":".toList = [':'] := rfl
  simp only [hkey, String.toList_append, List.append_assoc, hcolon, List.singleton_append]

/-- Plain questions that share their key ask the same. -/
theorem PlainQuestion.sameQuestion (h : PlainQuestion filter) (h' : PlainQuestion filter')
    (hkey : listKey filter = listKey filter') : SameQuestion filter filter' := by
  have hlists : (codesSegment filter.storeTypeCodes).toList ++
        ':' :: (filter.township.getD "all").toList =
      (codesSegment filter'.storeTypeCodes).toList ++
        ':' :: (filter'.township.getD "all").toList := by
    have htoList := congrArg String.toList hkey
    rw [toList_listKey, toList_listKey] at htoList
    exact List.append_cancel_left htoList
  obtain ⟨hsegment, htownship⟩ := (Keyed.append_cons_inj (colon_notMem_codesSegment h)
    (colon_notMem_codesSegment h')).mp hlists
  rw [String.toList_inj] at hsegment htownship
  constructor
  · have hnot := h.township
    have hnot' := h'.township
    cases hf : filter.township <;> cases hf' : filter'.township <;> simp_all
  · intro code
    cases hcodes : filter.storeTypeCodes with
    | none =>
      cases hcodes' : filter'.storeTypeCodes with
      | none => rw [hasCode, hasCode, hcodes, hcodes']
      | some storeTypeCodes' =>
        obtain ⟨hne, hall, hplain⟩ := h'.codes _ hcodes'
        rw [hcodes, hcodes'] at hsegment
        exact absurd hsegment.symm (codesSegment_ne_all hne hall fun code hcode =>
          (hplain code hcode).1)
    | some storeTypeCodes =>
      obtain ⟨hne, hall, hplain⟩ := h.codes _ hcodes
      cases hcodes' : filter'.storeTypeCodes with
      | none =>
        rw [hcodes, hcodes'] at hsegment
        exact absurd hsegment (codesSegment_ne_all hne hall fun code hcode =>
          (hplain code hcode).1)
      | some storeTypeCodes' =>
        obtain ⟨hne', -, hplain'⟩ := h'.codes _ hcodes'
        rw [hcodes, hcodes'] at hsegment
        exact hasCode_eq_of_sortCodes hcodes hcodes' (sortCodes_inj hne hne'
          (fun code hcode => (hplain code hcode).1) (fun code hcode => (hplain' code hcode).1)
          hsegment) code

theorem keysTell_of_plain {asked : DiscoveryFilter → Prop}
    (h : ∀ filter, asked filter → PlainQuestion filter) : KeysTell asked :=
  fun filter filter' hasked hasked' hkey => (h filter hasked).sameQuestion (h filter' hasked') hkey

end Keys

/-! ## Every run -/

/-- If filters of a run that share their key ask the same, every query is answered as it would be
without the cache. -/
theorem discovery_transparent (rules : TextRules)
    (queries : List (Bool × ListCustomerStoresQueryDto)) (world : DiscoveryWorld)
    (hempty : ∀ key, world.cache key = none)
    (htell : KeysTell (AskedInRun rules (lookups queries))) :
    answers rules queries world =
      queries.map fun query => .ok (findUncached rules query.2 world.data) := by
  refine answers_eq htell.apart queries (fun query hquery hcacheable => ⟨hcacheable, query.1,
    query.2, List.mem_map.mpr ⟨query, hquery, rfl⟩, rfl⟩) (Fresh.of_empty hempty)

/-- Two customers, one of whom looks in a township and for a store type. -/
theorem discovery_transparent_south :
    answers sampleRules [(false, {}), (false, { township := some "South" }),
        (true, { storeTypeCode := some "Grocery" }), (false, {})] discoveryWorld =
      [(false, {}), (false, { township := some "South" }),
        (true, { storeTypeCode := some "Grocery" }), (false, {})].map
          fun query => .ok (findUncached sampleRules query.2 typedShops) := by
  refine discovery_transparent sampleRules _ discoveryWorld (fun _ => rfl)
    (keysTell_of_plain fun filter hfilter => ?_)
  obtain ⟨-, earlyExpiry, query, hquery, rfl⟩ := hfilter
  simp only [lookups, List.map_cons, List.map_nil, List.mem_cons, DiscoveryCall.find.injEq,
    List.not_mem_nil, or_false] at hquery
  have hplain : ∀ filter : DiscoveryFilter, filter.township ≠ some "all" ∧
      (filter.storeTypeCodes = none ∨ filter.storeTypeCodes = some ["grocery"]) →
        PlainQuestion filter := by
    rintro filter ⟨htownship, hcodes⟩
    refine ⟨htownship, fun storeTypeCodes hsome => ?_⟩
    obtain hnone | hgrocery := hcodes
    · rw [hnone] at hsome
      cases hsome
    · obtain rfl := Option.some.inj (hgrocery.symm.trans hsome)
      decide
  obtain ⟨-, rfl⟩ | ⟨-, rfl⟩ | ⟨-, rfl⟩ | ⟨-, rfl⟩ := hquery <;>
    exact hplain _ (by decide +kernel)

/-- The ids of the branches that a query finds. -/
def idsOf : Except Failure DiscoverableBranches → List Id
  | .ok found => found.branches.map (·.id)
  | .error _ => []

/-- Who looks in a township `all` gets what was cached for no township. -/
theorem township_all_finds_all : ¬ ∀ (rules : TextRules)
    (queries : List (Bool × ListCustomerStoresQueryDto)) (world : DiscoveryWorld),
    (∀ key, world.cache key = none) → answers rules queries world =
      queries.map fun query => .ok (findUncached rules query.2 world.data) := by
  intro h
  have hids := congrArg (List.map idsOf) (h sampleRules
    [(false, {}), (false, { township := some "all" })] discoveryWorld fun _ => rfl)
  exact absurd hids (by decide +kernel)

end WerTe.CustomerStoreDiscovery
