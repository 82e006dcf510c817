import ReleaseMatrix.Catalog
import ReleaseMatrix.Proofs.JoinedPath
import Mathlib.Data.List.Infix

namespace ReleaseMatrix

theorem Triple.noSlash_of_acceptsRest {fresh : Bool} {cs : List Char} (accepted : acceptsRest fresh cs) :
    '/' ∉ cs := by
  induction cs generalizing fresh with
  | nil => simp
  | cons c cs ih =>
    unfold acceptsRest at accepted
    split at accepted
    · next hyphen =>
      have := ih (Bool.and_eq_true_iff.mp accepted).2
      simp [hyphen, this]
    · have rest := ih (Bool.and_eq_true_iff.mp accepted).2
      have segment := (Bool.and_eq_true_iff.mp accepted).1
      have other : c ≠ '/' := by
        rintro rfl
        exact absurd segment (by decide)
      simp [Ne.symm other, rest]

theorem Catalog.addId_eq_ok {targets more : List Target} {id : String} (added : addId targets id = .ok more) :
    (⟨Text.trim id⟩ : Target).isTriple ∧ (⟨Text.trim id⟩ : Target) ∉ targets ∧
      more = targets ++ [⟨Text.trim id⟩] := by
  simp only [addId] at added
  split at added
  · exact absurd added (by simp)
  · split at added
    · exact absurd added (by simp)
    · next triple =>
      split at added
      · exact absurd added (by simp)
      · next fresh => exact ⟨by simpa using triple, fresh, (Except.ok.inj added).symm⟩

/-- The targets of a catalog are different triples. -/
theorem Catalog.targets_of_ofIds {ids : List String} {c : Catalog} (accepted : Catalog.ofIds ids = .ok c) :
    c.targets.Nodup ∧ ∀ t ∈ c.targets, t.isTriple := by
  have extends_ {ids : List String} {targets more : List Target} (nodup : targets.Nodup)
      (triples : ∀ t ∈ targets, t.isTriple) (added : ids.foldlM addId targets = .ok more) :
      more.Nodup ∧ ∀ t ∈ more, t.isTriple := by
    induction ids generalizing targets with
    | nil => exact Except.ok.inj added ▸ ⟨nodup, triples⟩
    | cons id ids ih =>
      rw [List.foldlM_cons] at added
      cases first : addId targets id with
      | error error => simp [first, bind, Except.bind] at added
      | ok next =>
        rw [first] at added
        obtain ⟨triple, fresh, rfl⟩ := addId_eq_ok first
        refine ih ?_ ?_ added
        · exact List.nodup_append.mpr ⟨nodup, by simp, fun a member b same eq => fresh (by simp_all)⟩
        · simpa [or_imp, forall_and] using ⟨triples, triple⟩
  unfold ofIds targetsOfIds at accepted
  cases found : ids.foldlM addId [] with
  | error error => simp [found, bind, Except.bind] at accepted
  | ok targets =>
    obtain rfl : ⟨targets, none⟩ = c := by simpa [found, bind, Except.bind, pure, Except.pure] using accepted
    exact extends_ List.nodup_nil (by simp) found

/-- The id of a target that a catalog accepts can be the name of an entry. -/
theorem Target.isName_id {t : Target} (triple : t.isTriple) : IsName t.id := by
  unfold Target.isTriple at triple
  cases letters : t.id.toList with
  | nil => simp [letters, Triple.accepts] at triple
  | cons c cs =>
    rw [letters, Triple.accepts, Bool.and_eq_true] at triple
    obtain ⟨first, rest⟩ := triple
    have noDot : c ≠ '.' := by
      rintro rfl
      exact absurd first (by decide)
    have noSlash : c ≠ '/' := by
      rintro rfl
      exact absurd first (by decide)
    refine ⟨?_, ?_, ?_, ?_⟩
    · intro empty
      simp [empty] at letters
    · intro here
      simp [here, noDot.symm] at letters
    · intro up
      simp [up, noDot.symm] at letters
    · simp [letters, noSlash.symm, Triple.noSlash_of_acceptsRest rest]

/-- What the toolchain appends to a name leaves it a name. -/
theorem Target.isName_append_exeSuffix {product : String} {t : Target} (valid : IsName product) :
    IsName (product ++ t.exeSuffix) := by
  have dotted (suffix : String) (plain : '/' ∉ suffix.toList) : IsName (product ++ ("." ++ suffix)) := by
    rw [← String.append_assoc]
    exact .dotted valid.nonempty valid.notHere valid.noSlash plain
  unfold exeSuffix
  split
  · exact dotted "exe" (by decide)
  · split
    · exact dotted "wasm" (by decide)
    · simpa using valid

/-- Two texts with different endings are different. -/
theorem ne_of_endings {x y a b : List Char} (endX : a <:+ x) (endY : b <:+ y) (shorter : a.length ≤ b.length)
    (other : ¬ a <:+ b) : x ≠ y := by
  rintro rfl
  exact other (List.suffix_of_suffix_length_le endX endY shorter)

namespace Archive

/-- What the names of an archive and of its draft start with. -/
def stem (product version : String) (t : Target) : String :=
  product ++ "_" ++ version ++ "_" ++ t.id

def draftName (product version : String) (t : Target) : String :=
  stem product version t ++ "." ++ (extension ++ ".partial")

variable {product version : String} {s t : Target}

theorem fileName_eq : fileName product version t = stem product version t ++ "." ++ extension := rfl

theorem stem_inj (same : stem product version s = stem product version t) : s = t := by
  have ids : s.id = t.id := by
    rw [← String.toList_inj] at same ⊢
    simpa [stem] using same
  cases s
  cases t
  simpa using ids

theorem stem_ne_empty : stem product version t ≠ "" := by
  have mark : '_' ∈ (stem product version t).toList := by simp [stem]
  intro empty
  simp [empty] at mark

theorem stem_ne_here : stem product version t ≠ "." := by
  have mark : '_' ∈ (stem product version t).toList := by simp [stem]
  intro here
  simp [here] at mark

theorem noSlash_stem (plainProduct : '/' ∉ product.toList) (plainVersion : '/' ∉ version.toList)
    (valid : IsName t.id) : '/' ∉ (stem product version t).toList := by
  simp [stem, plainProduct, plainVersion, valid.noSlash]

theorem isName_fileName (plainProduct : '/' ∉ product.toList) (plainVersion : '/' ∉ version.toList)
    (valid : IsName t.id) : IsName (fileName product version t) :=
  .dotted stem_ne_empty stem_ne_here (noSlash_stem plainProduct plainVersion valid) (by decide)

theorem isName_draftName (plainProduct : '/' ∉ product.toList) (plainVersion : '/' ∉ version.toList)
    (valid : IsName t.id) : IsName (draftName product version t) :=
  .dotted stem_ne_empty stem_ne_here (noSlash_stem plainProduct plainVersion valid) (by decide)

theorem draft_fileName (p : Path) (plainProduct : '/' ∉ product.toList) (plainVersion : '/' ∉ version.toList)
    (valid : IsName t.id) :
    draft (p.join (fileName product version t)) = p.join (draftName product version t) :=
  Path.draft_join p stem_ne_empty stem_ne_here (noSlash_stem plainProduct plainVersion valid)

theorem fileName_inj (same : fileName product version s = fileName product version t) : s = t := by
  rw [fileName_eq, fileName_eq, ← String.toList_inj] at same
  have stems : stem product version s = stem product version t :=
    String.toList_inj.mp (by simpa using same)
  exact stem_inj stems

theorem draftName_inj (same : draftName product version s = draftName product version t) : s = t := by
  rw [draftName, draftName, ← String.toList_inj] at same
  have stems : stem product version s = stem product version t :=
    String.toList_inj.mp (by simpa using same)
  exact stem_inj stems

theorem suffix_fileName : ".zip".toList <:+ (fileName product version t).toList :=
  ⟨(stem product version t).toList, by simp [fileName_eq, extension]⟩

theorem suffix_draftName : ".partial".toList <:+ (draftName product version t).toList :=
  ⟨(stem product version t ++ ".zip").toList, by simp [draftName, extension]⟩

theorem fileName_ne_draftName : fileName product version s ≠ draftName product version t := by
  rw [Ne, ← String.toList_inj]
  exact ne_of_endings suffix_fileName suffix_draftName (by decide) (by decide)

end Archive

end ReleaseMatrix
