import ReleaseMatrix.Proofs.RestrictedTarget

namespace ReleaseMatrix.Catalog

/-- What is wrong with an id that stands after others. The faults are looked for in this order. -/
inductive Fault (before : List String) (id : String) : ConfigError → Prop
  | empty (blank : Text.trim id = "") : Fault before id .emptyTarget
  | invalid (filled : Text.trim id ≠ "") (other : (targetOf id).isTriple = false) :
      Fault before id (.invalidTarget (Text.trim id))
  | duplicate (triple : (targetOf id).isTriple) (again : Text.trim id ∈ before.map Text.trim) :
      Fault before id (.duplicateTarget (Text.trim id))

/-- An id can stand after others: it names a triple that none of them names. -/
def Fits (before : List String) (id : String) : Prop :=
  (targetOf id).isTriple ∧ Text.trim id ∉ before.map Text.trim

/-- The error of the first one of some ids that has a fault. Other ids stand before them. -/
def FirstFault (before ids : List String) (error : ConfigError) : Prop :=
  ∃ i id, ids[i]? = some id ∧ Fault (before ++ ids.take i) id error ∧
    ∀ j < i, ∀ earlier, ids[j]? = some earlier → Fits (before ++ ids.take j) earlier

section

variable {ids before : List String} {id : String} {error : ConfigError}

theorem Fault.not_fits (fault : Fault before id error) : ¬ Fits before id := by
  rintro ⟨triple, new⟩
  cases fault with
  | empty blank => simp [not_isTriple_of_blank (t := targetOf id) blank] at triple
  | invalid _ other => simp [other] at triple
  | duplicate _ again => exact new again

theorem exists_fault_of_not_fits (unfit : ¬ Fits before id) : ∃ error, Fault before id error := by
  by_cases blank : Text.trim id = ""
  · exact ⟨_, .empty blank⟩
  by_cases triple : (targetOf id).isTriple
  · have again : Text.trim id ∈ before.map Text.trim := by
      by_contra new
      exact unfit ⟨triple, new⟩
    exact ⟨_, .duplicate triple again⟩
  · exact ⟨_, .invalid blank (by simpa using triple)⟩

theorem targetOf_mem_iff : targetOf id ∈ before.map targetOf ↔ Text.trim id ∈ before.map Text.trim := by
  simp [targetOf]

/-- An id is refused after others for its fault. -/
theorem addId_eq_error_iff : addId (before.map targetOf) id = .error error ↔ Fault before id error := by
  change (if Text.trim id = "" then _ else if !(targetOf id).isTriple then _ else
    if targetOf id ∈ before.map targetOf then _ else _) = _ ↔ _
  constructor
  · intro refused
    split at refused
    · next blank =>
      cases refused
      exact .empty blank
    · next filled =>
      split at refused
      · next other =>
        cases refused
        exact .invalid filled (by simpa using other)
      · next triple =>
        split at refused
        · next again =>
          cases refused
          exact .duplicate (by simpa using triple) (targetOf_mem_iff.mp again)
        · cases refused
  · rintro (blank | ⟨filled, other⟩ | ⟨triple, again⟩)
    · rw [if_pos blank]
    · rw [if_neg filled, other]
      rfl
    · have filled : Text.trim id ≠ "" := fun blank => by
        rw [not_isTriple_of_blank (t := targetOf id) blank] at triple
        cases triple
      rw [if_neg filled, triple, if_neg (by decide), if_pos (targetOf_mem_iff.mpr again)]

theorem addId_eq_of_fits (fits : Fits before id) :
    addId (before.map targetOf) id = .ok ((before ++ [id]).map targetOf) := by
  rw [addId_of_fresh fits.1 (targetOf_mem_iff.not.mpr fits.2), List.map_append, List.map_singleton]

theorem FirstFault.of_fault (unfit : ¬ Fits before id) :
    FirstFault before (id :: ids) error ↔ Fault before id error := by
  constructor
  · rintro ⟨_ | i, other, found, fault, fits⟩
    · obtain rfl : id = other := by simpa using found
      simpa using fault
    · exact absurd (by simpa using fits 0 (Nat.succ_pos i) id rfl) unfit
  · intro fault
    exact ⟨0, id, rfl, by simpa using fault, by simp⟩

theorem FirstFault.of_fits (fits : Fits before id) :
    FirstFault before (id :: ids) error ↔ FirstFault (before ++ [id]) ids error := by
  constructor
  · rintro ⟨_ | i, other, found, fault, others⟩
    · obtain rfl : id = other := by simpa using found
      exact absurd fits (by simpa using fault.not_fits)
    · refine ⟨i, other, found, by simpa using fault, fun j within earlier found' => ?_⟩
      simpa using others (j + 1) (Nat.succ_lt_succ within) earlier found'
  · rintro ⟨i, other, found, fault, others⟩
    refine ⟨i + 1, other, found, by simpa using fault, ?_⟩
    rintro (_ | j) within earlier found'
    · obtain rfl : id = earlier := by simpa using found'
      simpa using fits
    · simpa using others j (Nat.lt_of_succ_lt_succ within) earlier found'

/-- Ids that follow others are refused for the first fault among them. -/
theorem foldlM_addId_eq_error_iff :
    ids.foldlM addId (before.map targetOf) = .error error ↔ FirstFault before ids error := by
  -- As long as all ids before have been taken in, what they have left is their targets.
  induction ids generalizing before with
  | nil => simp [FirstFault, pure, Except.pure]
  | cons id ids ih =>
    rw [List.foldlM_cons]
    by_cases fits : Fits before id
    · rw [FirstFault.of_fits fits, addId_eq_of_fits fits, ← ih]
      rfl
    · obtain ⟨e, fault⟩ := exists_fault_of_not_fits fits
      rw [FirstFault.of_fault fits, ← addId_eq_error_iff, addId_eq_error_iff.mpr fault]
      rfl

theorem targetsOfIds_eq_ok_iff {targets : List Target} : targetsOfIds ids = .ok targets ↔
    (∀ id ∈ ids, (targetOf id).isTriple) ∧ (ids.map Text.trim).Nodup ∧ targets = ids.map targetOf := by
  have nodup : (ids.map targetOf).Nodup ↔ (ids.map Text.trim).Nodup := by
    have whole : ids.map targetOf = (ids.map Text.trim).map Target.mk := by rw [List.map_map]; rfl
    rw [whole, List.nodup_map_iff fun a b same => congrArg Target.id same]
  have accepted : (∃ all, targetsOfIds ids = .ok all) ↔
      (∀ id ∈ ids, (targetOf id).isTriple) ∧ (ids.map Text.trim).Nodup := by
    rw [targetsOfIds, foldlM_addId_isOk_iff, nodup]
    simp
  constructor
  · intro made
    obtain ⟨triples, different⟩ := accepted.mp ⟨targets, made⟩
    exact ⟨triples, different, by simpa using eq_of_foldlM_addId made⟩
  · rintro ⟨triples, different, rfl⟩
    obtain ⟨targets, made⟩ := accepted.mpr ⟨triples, different⟩
    rw [made, eq_of_foldlM_addId made, List.nil_append]

theorem ofIds_eq_ok_iff {c : Catalog} : ofIds ids = .ok c ↔
    (∀ id ∈ ids, (targetOf id).isTriple) ∧ (ids.map Text.trim).Nodup ∧ c = ⟨ids.map targetOf, none⟩ := by
  have made : ofIds ids = .ok c ↔ ∃ targets, targetsOfIds ids = .ok targets ∧ ⟨targets, none⟩ = c := by
    unfold ofIds
    cases targetsOfIds ids <;> simp [bind, Except.bind, pure, Except.pure]
  rw [made]
  simp only [targetsOfIds_eq_ok_iff]
  constructor
  · rintro ⟨_, ⟨triples, different, rfl⟩, rfl⟩
    exact ⟨triples, different, rfl⟩
  · rintro ⟨triples, different, rfl⟩
    exact ⟨_, ⟨triples, different, rfl⟩, rfl⟩

/-- A list of ids is a catalog just if they are different triples up to the blanks around them, and its ids make the
same catalog. Otherwise it is refused for the first id that is blank, no triple, or one of those before it. -/
theorem ofIds_verdict (ids : List String) :
    ((∃ c, ofIds ids = .ok c) ↔ (∀ id ∈ ids, (targetOf id).isTriple) ∧ (ids.map Text.trim).Nodup) ∧
    (∀ c, ofIds ids = .ok c → c.targets.map Target.id = ids.map Text.trim ∧ c.restricted? = none ∧
      ofIds (c.targets.map Target.id) = .ok c) ∧
    ∀ error, ofIds ids = .error error ↔ FirstFault [] ids error := by
  refine ⟨?_, fun c made => ?_, fun error => ?_⟩
  · simp only [ofIds_eq_ok_iff]
    constructor
    · rintro ⟨_, triples, different, -⟩
      exact ⟨triples, different⟩
    · rintro ⟨triples, different⟩
      exact ⟨_, triples, different, rfl⟩
  · obtain ⟨triples, different, rfl⟩ := ofIds_eq_ok_iff.mp made
    have trimmed : (ids.map targetOf).map Target.id = ids.map Text.trim := by rw [List.map_map]; rfl
    have again (id : String) : targetOf (Text.trim id) = targetOf id := congrArg Target.mk (Text.trim_trim id)
    refine ⟨trimmed, rfl, ?_⟩
    rw [trimmed]
    refine ofIds_eq_ok_iff.mpr ⟨?_, ?_, ?_⟩
    · simpa [again] using triples
    · simpa [Function.comp_def, Text.trim_trim] using different
    · simp [Function.comp_def, again]
  · have refused : ofIds ids = .error error ↔ targetsOfIds ids = .error error := by
      unfold ofIds
      cases targetsOfIds ids <;> simp [bind, Except.bind, pure, Except.pure]
    rw [refused, targetsOfIds, ← List.map_nil, foldlM_addId_eq_error_iff]

theorem ofIds_verdict_padded :
    let c : Catalog := ⟨[⟨"x86_64-linux"⟩, ⟨"aarch64-macos.13.0"⟩], none⟩
    let ids := [" x86_64-linux", "aarch64-macos.13.0\u3000"]
    let refused := [" x86_64-linux", "x86_64-linux\n", "", "a/b"]
    ofIds ids = .ok c ∧ ofIds (c.targets.map Target.id) = .ok c ∧
      Fault [" x86_64-linux"] "x86_64-linux\n" (.duplicateTarget "x86_64-linux") ∧
      ofIds refused = .error (.duplicateTarget "x86_64-linux") := by
  intro c ids refused
  have made : ofIds ids = .ok c := ofIds_eq_ok_iff.mpr ⟨by decide +kernel, by decide +kernel, by decide +kernel⟩
  obtain ⟨-, -, again⟩ := (ofIds_verdict ids).2.1 c made
  have fault : Fault [" x86_64-linux"] "x86_64-linux\n" (.duplicateTarget "x86_64-linux") :=
    .duplicate (by decide +kernel) (by decide +kernel)
  have fits : Fits [] " x86_64-linux" := ⟨by decide +kernel, by simp⟩
  have first : FirstFault [] refused (.duplicateTarget "x86_64-linux") := by
    refine ⟨1, "x86_64-linux\n", rfl, fault, fun j within earlier found => ?_⟩
    obtain rfl := Nat.lt_one_iff.mp within
    obtain rfl : " x86_64-linux" = earlier := by simpa [refused] using found
    exact fits
  exact ⟨made, again, fault, ((ofIds_verdict refused).2.2 _).mpr first⟩

end

end ReleaseMatrix.Catalog
