import ReleaseMatrix.Proofs.AcceptedVersion
import ReleaseMatrix.Proofs.DraftName
import ReleaseMatrix.Proofs.SpareNames

namespace ReleaseMatrix

/-- The kinds of file that a release gives a name of its own to. -/
inductive Artifact
  | archive
  | draft
  | package (format : PackageFormat)
deriving DecidableEq, Repr

namespace Artifact

/-- The file name of an artifact. That of a draft is made from the archive's. -/
def name (k : Artifact) (product version : String) (t : Target) : String :=
  match k with
  | archive => Archive.fileName product version t
  | draft => (Archive.draft ⟨Archive.fileName product version t⟩).text
  | package f => (⟨t, f, ""⟩ : PackageSpec).releaseName product version

/-- What the names of a kind end in. -/
def ending : Artifact → String
  | archive => ".zip"
  | draft => ".zip.partial"
  | package f => "." ++ f.extension

theorem ending_inj (k k' : Artifact) : k.ending.toList <:+ k'.ending.toList → k = k' := by
  rcases k with _ | _ | (_ | _ | _) <;> rcases k' with _ | _ | (_ | _ | _) <;> decide +kernel

variable {product version version' : String} {t t' : Target} {k k' : Artifact}

theorem toList_fileName (product version : String) (t : Target) :
    ∃ c cs, (Archive.fileName product version t).toList = c :: cs := by
  refine List.exists_cons_of_ne_nil fun none => ?_
  have mark : '_' ∈ (Archive.fileName product version t).toList := by simp [Archive.fileName]
  simp [none] at mark

/-- A draft has the name of its archive with more after it, in whatever directory the archive is. -/
theorem draft_join_fileName (outDir : Path) (valid : IsName t.id) :
    Archive.draft (outDir.join (Archive.fileName product version t)) =
      outDir.join (Archive.fileName product version t ++ ".partial") := by
  obtain ⟨home, stem, isHome, validName, validDraft, path, placed⟩ :=
    Archiver.exists_names ⟨product, outDir⟩ version valid
  rw [Archiver.path] at path placed
  refine Path.eq_of_toList ?_
  have longer : (outDir.join (Archive.fileName product version t ++ ".partial")).text.toList =
      (outDir.join (Archive.fileName product version t)).text.toList ++ ".partial".toList := by
    obtain ⟨c, cs, letters⟩ := toList_fileName product version t
    simp only [Path.join, String.toList_append, letters, List.cons_append, List.head?_cons]
    split
    · simp [letters]
    · split <;> simp [letters]
  rw [longer, placed, path, isHome.toList_join validDraft.head_ne_slash, isHome.toList_join validName.head_ne_slash]
  simp [Archive.extension]

theorem name_draft (valid : IsName t.id) :
    draft.name product version t = Archive.fileName product version t ++ ".partial" := by
  have here (q : String) : (⟨""⟩ : Path).join q = ⟨q⟩ := by simp [Path.join]
  have joined := @draft_join_fileName product version t ⟨""⟩ valid
  rw [here, here] at joined
  rw [name, joined]

theorem name_eq (k : Artifact) (product version : String) (valid : IsName t.id) :
    k.name product version t = product ++ "_" ++ version ++ "_" ++ t.id ++ k.ending := by
  cases k with
  | archive => simp [name, Archive.fileName, ending, Archive.extension, String.append_assoc]
  | draft => simp [name_draft valid, Archive.fileName, ending, Archive.extension, String.append_assoc]
  | package f => simp [name, PackageSpec.releaseName, ending, String.append_assoc]

/-- The name of an artifact tells the version, which has no underscore in it, and the target and the kind. -/
theorem name_inj (valid : IsName t.id) (valid' : IsName t'.id) (plain : '_' ∉ version.toList)
    (plain' : '_' ∉ version'.toList) (same : k.name product version t = k'.name product version' t') :
    version = version' ∧ t = t' ∧ k = k' := by
  rw [name_eq k product version valid, name_eq k' product version' valid', ← String.toList_inj] at same
  have tails : version.toList ++ '_' :: (t.id ++ k.ending).toList =
      version'.toList ++ '_' :: (t'.id ++ k'.ending).toList := by
    simpa [List.append_assoc] using same
  have front {cs : List Char} (absent : '_' ∉ cs) (more : List Char) :
      (cs ++ '_' :: more).takeWhile (· ≠ '_') = cs := by
    have kept : ∀ c ∈ cs, decide (c ≠ '_') = true := fun c member => by
      simpa using fun mark : c = '_' => absent (mark ▸ member)
    rw [List.takeWhile_append_of_pos kept]
    simp
  have versions : version.toList = version'.toList := by
    rw [← front plain (t.id ++ k.ending).toList, tails, front plain']
  rw [versions, List.append_cancel_left_eq, List.cons.injEq] at tails
  have rest := tails.2
  rw [String.toList_append, String.toList_append] at rest
  have kinds : k = k' := by
    rcases List.suffix_or_suffix_of_suffix ⟨_, rfl⟩ ⟨_, rest.symm⟩ with shorter | shorter
    · exact ending_inj _ _ shorter
    · exact (ending_inj _ _ shorter).symm
  subst kinds
  have ids : t.id = t'.id := String.toList_inj.mp (List.append_cancel_right rest)
  exact ⟨String.toList_inj.mp versions, congrArg Target.mk ids, rfl⟩

end Artifact

/-- Whatever product, version and processor a packager is told, it gives its output the name of a package. -/
theorem PackageFormat.isPackageName_outputName (f : PackageFormat) (product version arch : String) :
    Collection.isPackageName (f.outputName product version arch) := by
  have named (stem : String) (nonempty : stem ≠ "")
      (eq : f.outputName product version arch = stem ++ "." ++ f.extension) :
      Collection.isPackageName (f.outputName product version arch) :=
    eq ▸ Collection.isPackageName_append f.extension_mem nonempty
  cases f with
  | deb => exact named (product ++ "_" ++ version ++ "_" ++ arch) (by simp) (by simp [outputName, extension, String.append_assoc])
  | rpm => exact named (product ++ "-" ++ version ++ "-1." ++ arch) (by simp) (by simp [outputName, extension, String.append_assoc])
  | pacman =>
    exact named (product ++ "-" ++ version ++ "-1-" ++ arch) (by simp) (by simp [outputName, extension, String.append_assoc])

namespace Checksums

theorem exists_suffix_of_isListed {name : String} (listed : isListed name) :
    ∃ extension ∈ Archive.extension :: Collection.packageExtensions, ("." ++ extension).toList <:+ name.toList := by
  rcases Bool.or_eq_true_iff.mp listed with archive | package
  · exact ⟨_, List.mem_cons_self, endsWith_iff_suffix.mp archive⟩
  · obtain ⟨extension, member, ends⟩ := Collection.exists_suffix_of_isPackageName package
    exact ⟨extension, List.mem_cons_of_mem _ member, ends⟩

theorem isListed_of_isPackageName {name : String} (package : Collection.isPackageName name) : isListed name := by
  rw [isListed, package, Bool.or_true]

theorem isListed_fileName (product version : String) (t : Target) : isListed (Archive.fileName product version t) := by
  have ends : ("." ++ Archive.extension).toList <:+ (Archive.fileName product version t).toList :=
    ⟨(Archive.stem product version t).toList, by simp [Archive.fileName_eq]⟩
  rw [isListed, endsWith_iff_suffix.mpr ends, Bool.true_or]

/-- A name that ends otherwise than archives and packages do is not in the manifest. -/
theorem not_isListed_of_partial {name : String} (ends : ".partial".toList <:+ name.toList) : isListed name = false := by
  by_contra listed
  obtain ⟨extension, member, ends'⟩ := exists_suffix_of_isListed (by simpa using listed)
  have other : ∀ extension ∈ Archive.extension :: Collection.packageExtensions,
      ¬ ".partial".toList <:+ ("." ++ extension).toList ∧ ¬ ("." ++ extension).toList <:+ ".partial".toList := by decide
  exact (List.suffix_or_suffix_of_suffix ends ends').elim (other extension member).1 (other extension member).2

/-- The directory that a package is made in is not in the manifest. -/
theorem not_isListed_of_isWorkName {name : String} (work : PackageScratch.isWorkName name) : isListed name = false := by
  rw [isListed, PackageScratch.not_isPackageName work, Bool.or_false, ← Bool.not_eq_true, endsWith_iff_suffix]
  intro ends
  rw [← PackageScratch.eq_of_suffix work ends] at work
  exact absurd work (by decide +kernel)

end Checksums

open Artifact in
/-- With one product, the name of an artifact tells its version, its target and its kind, if the version and the target
are accepted ones. Drafts lie beside their archives. The names of archives and packages belong in the manifest, those of
packages and of what the packager makes are collected, and those of drafts are neither. -/
theorem Artifact.names_never_collide {product v v' : String} {parsed parsed' : Version} {t t' : Target}
    (accepted : Version.check v = .ok parsed) (accepted' : Version.check v' = .ok parsed')
    (triple : t.isTriple) (triple' : t'.isTriple) :
    (∀ k k' : Artifact, k.name product v t = k'.name product v' t' ↔ v = v' ∧ t = t' ∧ k = k') ∧
    (∀ outDir : Path, Archive.draft (outDir.join (archive.name product v t)) = outDir.join (draft.name product v t)) ∧
    (∀ s : PackageSpec, s.target = t → s.releaseName product v = (package s.format).name product v t) ∧
    (∀ k : Artifact, Checksums.isListed (k.name product v t) ↔ k ≠ draft) ∧
    (∀ k : Artifact, Collection.isPackageName (k.name product v t) ↔ ∃ f, k = package f) ∧
    ∀ (f : PackageFormat) (arch : String), Collection.isPackageName (f.outputName product v arch) := by
  have valid := Target.isName_id triple
  have plain {version : String} {parsed : Version} (accepted : Version.check version = .ok parsed) : '_' ∉ version.toList :=
    fun mark => absurd (Version.isVersionChar_of_check accepted _ mark) (by decide)
  have isPackage (f : PackageFormat) : Collection.isPackageName ((package f).name product v t) :=
    PackageSpec.isPackageName_releaseName ⟨t, f, ""⟩ product v
  have ended : ".partial".toList <:+ (draft.name product v t).toList :=
    ⟨(Archive.fileName product v t).toList, by rw [name_draft valid, String.toList_append]⟩
  have unlisted := Checksums.not_isListed_of_partial ended
  refine ⟨fun k k' => ⟨name_inj valid (Target.isName_id triple') (plain accepted) (plain accepted'), ?_⟩,
    fun outDir => ?_, ?_, fun k => ?_, fun k => ?_, fun f => f.isPackageName_outputName product v⟩
  · rintro ⟨rfl, rfl, rfl⟩
    rfl
  · rw [name_draft valid]
    exact draft_join_fileName outDir valid
  · rintro s rfl
    rfl
  · cases k with
    | archive => simpa [name] using Checksums.isListed_fileName product v t
    | draft => simp [unlisted]
    | package f => simpa using Checksums.isListed_of_isPackageName (isPackage f)
  · cases k with
    | archive =>
      have other : Collection.isPackageName (archive.name product v t) = false := by
        by_contra package
        have spare := isSpareName_of_isPackagingName (isPackagingName_of_isPackageName (by simpa using package))
        exact absurd spare (by simpa [name] using Archive.not_isSpareName_fileName)
      simp [other]
    | draft =>
      have other : Collection.isPackageName (draft.name product v t) = false := by
        by_contra package
        simp [Checksums.isListed_of_isPackageName (by simpa using package)] at unlisted
      simp [other]
    | package f => simpa using isPackage f

theorem Artifact.names_never_collide_dotted :
    let v := "1.0.0"
    let v' := "1.0.0-rc.1"
    let t : Target := ⟨"arm.zip"⟩
    let t' : Target := ⟨"arm"⟩
    ∃ parsed parsed', Version.check v = .ok parsed ∧ Version.check v' = .ok parsed' ∧ t.isTriple ∧ t'.isTriple ∧
      (Artifact.archive.name "a_1.0.0_b" v t ≠ Artifact.draft.name "a_1.0.0_b" v' t') ∧
      Checksums.isListed (Artifact.archive.name "a_1.0.0_b" v t) := by
  intro v v' t t'
  have accepted : Version.check v = .ok ⟨1, 0, 0, "", ""⟩ := by decide +kernel
  have accepted' : Version.check v' = .ok ⟨1, 0, 0, "rc.1", ""⟩ := by decide +kernel
  have triple : t.isTriple := by decide
  have triple' : t'.isTriple := by decide
  have told := @Artifact.names_never_collide "a_1.0.0_b" v v' _ _ t t' accepted accepted' triple triple'
  refine ⟨_, _, accepted, accepted', triple, triple', fun same => ?_, (told.2.2.2.1 .archive).mpr (by decide)⟩
  exact absurd ((told.1 _ _).mp same).2.2 (by decide)

end ReleaseMatrix
