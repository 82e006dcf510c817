import ReleaseMatrix.Proofs.PackageSets

namespace ReleaseMatrix

theorem endsWith_iff_suffix {a b : String} : a.endsWith b = true ↔ b.toList <:+ a.toList := by
  rw [String.endsWith_eq_endsWith_toSlice, String.Slice.endsWith_string_iff, String.copy_toSlice]

/-- A text with a mark in it that is no dot can be the name of an entry. -/
theorem IsName.of_mark {name : String} {c : Char} (marked : c ∈ name.toList) (other : c ≠ '.')
    (noSlash : '/' ∉ name.toList) : IsName name := by
  refine ⟨?_, ?_, ?_, noSlash⟩ <;>
    · rintro rfl
      simp [other] at marked

namespace PackageScratch

theorem isDigit_of_mem_toString {n : Nat} {c : Char} (member : c ∈ (toString n).toList) : c.isDigit := by
  rw [Nat.toString_eq_repr, Nat.repr_eq_ofList_toDigits, String.toList_ofList] at member
  exact Nat.isDigit_of_mem_toDigits (by decide) (by decide) member

/-- Whether a name is one for the directory that a package is made in. -/
def isWorkName (name : String) : Bool :=
  stem.toList.isPrefixOf name.toList && (name.toList.drop stem.length).all Char.isAlphanum

theorem exists_digits_nameOf (n : Nat) :
    ∃ digits, (nameOf n).toList = stem.toList ++ digits ∧ ∀ c ∈ digits, c.isDigit := by
  refine ⟨List.replicate (6 - (toString n).toList.length) '0' ++ (toString n).toList, ?_, fun c member => ?_⟩
  · rw [nameOf, String.toList_append, String.toList_ofList]
  · rcases List.mem_append.mp member with zeros | number
    · rw [List.eq_of_mem_replicate zeros]
      decide
    · exact isDigit_of_mem_toString number

theorem isWorkName_nameOf (n : Nat) : isWorkName (nameOf n) := by
  obtain ⟨digits, letters, all⟩ := exists_digits_nameOf n
  have rest : (stem.toList ++ digits).drop stem.length = digits := by
    rw [← String.length_toList, List.drop_left]
  rw [isWorkName, letters, rest, Bool.and_eq_true, List.all_eq_true]
  exact ⟨by simp, fun c member => by simp [Char.isAlphanum, all c member]⟩

theorem isName_of_isWorkName {name : String} (work : isWorkName name) : IsName name := by
  rw [isWorkName, Bool.and_eq_true, List.isPrefixOf_iff_prefix, List.all_eq_true] at work
  obtain ⟨⟨rest, letters⟩, plain⟩ := work
  have tail : name.toList.drop stem.length = rest := by
    rw [← letters, ← String.length_toList, List.drop_left]
  rw [tail] at plain
  refine .of_mark (c := '-') (by simp [← letters, stem]) (by decide) fun slash => ?_
  rw [← letters] at slash
  rcases List.mem_append.mp slash with first | last
  · exact absurd first (by decide)
  · exact absurd (plain _ last) (by decide)

/-- A name with a mark that is neither a letter nor a digit is none for the directory of a package. -/
theorem not_isWorkName_of_mark {name : String} {c : Char} (marked : c ∈ name.toList)
    (foreign : c ∉ stem.toList) (mark : c.isAlphanum = false) :
    isWorkName name = false := by
  by_contra work
  rw [Bool.not_eq_false, isWorkName, Bool.and_eq_true, List.isPrefixOf_iff_prefix,
    List.all_eq_true] at work
  obtain ⟨⟨rest, letters⟩, plain⟩ := work
  rw [← letters, ← String.length_toList, List.drop_left] at plain
  rw [← letters] at marked
  have alphanum := plain c ((List.mem_append.mp marked).resolve_left foreign)
  simp [mark] at alphanum

theorem exists_freshName (taken : List String) : ∃ n, freshName taken = nameOf n := by
  rw [freshName]
  cases found : ((List.range (taken.length + 1)).map nameOf).find? (· ∉ taken) with
  | none => exact ⟨0, rfl⟩
  | some name =>
    obtain ⟨n, -, rfl⟩ := List.mem_map.mp (List.mem_of_find?_eq_some found)
    exact ⟨n, rfl⟩

end PackageScratch

namespace Collection

theorem exists_suffix_of_isPackageName {name : String} (package : isPackageName name) :
    ∃ extension ∈ packageExtensions, ("." ++ extension).toList <:+ name.toList := by
  obtain ⟨extension, listed, ends⟩ := List.any_eq_true.mp package
  exact ⟨extension, listed, endsWith_iff_suffix.mp (Bool.and_eq_true_iff.mp ends).2⟩

/-- What has something before the extension of a package has the name of a package. -/
theorem isPackageName_append {stem extension : String} (listed : extension ∈ packageExtensions)
    (nonempty : stem ≠ "") : isPackageName (stem ++ "." ++ extension) := by
  refine List.any_eq_true.mpr ⟨extension, listed, ?_⟩
  rw [Bool.and_eq_true, decide_eq_true_iff, endsWith_iff_suffix]
  refine ⟨?_, stem.toList, by simp⟩
  have dot : ".".utf8ByteSize = 1 := by decide
  have some : stem.utf8ByteSize ≠ 0 := fun none => nonempty (String.utf8ByteSize_eq_zero_iff.mp none)
  simp only [String.utf8ByteSize_append, dot]
  omega

end Collection

/-- The name of a directory for a package has no dot but the first. -/
theorem PackageScratch.eq_of_suffix {name extension : String} (work : isWorkName name)
    (ends : ("." ++ extension).toList <:+ name.toList) : "." ++ extension = name := by
  rw [isWorkName, Bool.and_eq_true, List.isPrefixOf_iff_prefix, List.all_eq_true] at work
  obtain ⟨⟨rest, letters⟩, plain⟩ := work
  rw [← letters, ← String.length_toList, List.drop_left] at plain
  obtain ⟨before, split⟩ := ends
  rw [← letters] at split
  cases before with
  | nil => exact String.toList_inj.mp (by rw [← letters, ← split, List.nil_append])
  | cons c before =>
    have shape : stem.toList = '.' :: "native-".toList := by decide
    have tail : before ++ ("." ++ extension).toList = "native-".toList ++ rest := by
      simpa [shape] using congrArg List.tail split
    have dotted : '.' ∈ "native-".toList ++ rest := tail ▸ by simp
    rcases List.mem_append.mp dotted with inStem | inRest
    · exact absurd inStem (by decide)
    · exact absurd (plain '.' inRest) (by decide)

/-- The directory that a package is made in has not the name of a package. -/
theorem PackageScratch.not_isPackageName {name : String} (work : isWorkName name) :
    Collection.isPackageName name = false := by
  by_contra package
  rw [Bool.not_eq_false, Collection.isPackageName, List.any_eq_true] at package
  obtain ⟨extension, -, fits⟩ := package
  rw [Bool.and_eq_true, decide_eq_true_iff, endsWith_iff_suffix] at fits
  obtain ⟨longer, ends⟩ := fits
  have dot : ".".utf8ByteSize = 1 := by decide
  rw [← eq_of_suffix work ends, String.utf8ByteSize_append, dot] at longer
  omega

theorem PackageFormat.extension_mem (f : PackageFormat) : f.extension ∈ Collection.packageExtensions := by
  cases f <;> decide

theorem PackageSpec.isPackageName_releaseName (s : PackageSpec) (product version : String) :
    Collection.isPackageName (s.releaseName product version) := by
  have nonempty : product ++ "_" ++ version ++ "_" ++ s.target.id ≠ "" := by simp
  exact Collection.isPackageName_append s.format.extension_mem nonempty

theorem PackageSpec.releaseName_ne_nameOf (s : PackageSpec) (product version : String) (n : Nat) :
    s.releaseName product version ≠ PackageScratch.nameOf n := by
  intro same
  have work := PackageScratch.isWorkName_nameOf n
  rw [← same, PackageScratch.not_isWorkName_of_mark (c := '_') (by simp [releaseName]) (by decide) (by decide)] at work
  cases work

theorem PackageArch.noSlash_of_find? {t : Target} {f : PackageFormat} {arch : String} (found : find? t f = some arch) :
    '/' ∉ arch.toList := by
  obtain ⟨before, after, split, -⟩ := List.lookup_eq_some_iff.mp found
  have all : ∀ row ∈ table f, '/' ∉ row.2.toList := by cases f <;> decide
  exact all (t.id, arch) (by simp [split])

namespace PackageSpec

variable {s : PackageSpec} {t : Target} {formats : List PackageFormat} {product version : String}

theorem noSlash_of_mem_list (member : s ∈ list t formats) : '/' ∉ s.target.id.toList ∧ '/' ∉ s.arch.toList := by
  obtain ⟨f, -, found⟩ := List.mem_filterMap.mp member
  obtain ⟨arch, named, rfl⟩ := Option.map_eq_some_iff.mp found
  exact ⟨PackageArch.noSlash_of_mapped (mapped_of_mem_list member).1, PackageArch.noSlash_of_find? named⟩

theorem isName_releaseName_of_mapped (mapped : PackageArch.Mapped s.target) (plainProduct : '/' ∉ product.toList)
    (plainVersion : '/' ∉ version.toList) : IsName (s.releaseName product version) := by
  have plain : '/' ∉ s.format.extension.toList := by cases s.format <;> decide
  exact .of_mark (c := '_') (by simp [releaseName]) (by decide)
    (by simp [releaseName, plainProduct, plainVersion, plain, PackageArch.noSlash_of_mapped mapped])

theorem isName_releaseName (member : s ∈ list t formats) (plainProduct : '/' ∉ product.toList)
    (plainVersion : '/' ∉ version.toList) : IsName (s.releaseName product version) := by
  obtain ⟨mapped, same⟩ := mapped_of_mem_list member
  exact isName_releaseName_of_mapped (same ▸ mapped) plainProduct plainVersion

theorem isName_outputName (member : s ∈ list t formats) (plainProduct : '/' ∉ product.toList)
    (plainVersion : '/' ∉ version.toList) : IsName (s.outputName product version) := by
  have plainArch := (noSlash_of_mem_list member).2
  have noSlash : '/' ∉ (s.outputName product version).toList := by
    cases format : s.format <;>
      simp [outputName, format, PackageFormat.outputName, plainProduct, plainVersion, plainArch]
  cases format : s.format with
  | deb => exact .of_mark (c := '_') (by simp [outputName, format, PackageFormat.outputName]) (by decide) noSlash
  | rpm | pacman =>
    exact .of_mark (c := '-') (by simp [outputName, format, PackageFormat.outputName]) (by decide) noSlash

end PackageSpec

/-- Whether packaging may give the name to something: to a package, or to the directory that one is made in. -/
def isPackagingName (name : String) : Bool :=
  PackageScratch.isWorkName name || Collection.isPackageName name

/-- Whether a release may give the name to something in its output directory besides archives and drafts. -/
def isSpareName (name : String) : Bool :=
  isPackagingName name || name == Checksums.manifestName

theorem isPackagingName_nameOf (n : Nat) : isPackagingName (PackageScratch.nameOf n) := by
  simp [isPackagingName, PackageScratch.isWorkName_nameOf]

theorem isPackagingName_of_isPackageName {name : String} (package : Collection.isPackageName name) :
    isPackagingName name := by
  simp [isPackagingName, package]

theorem isSpareName_of_isPackagingName {name : String} (packaging : isPackagingName name) : isSpareName name := by
  simp [isSpareName, packaging]

theorem not_isPackagingName_manifestName : isPackagingName Checksums.manifestName = false := by decide +kernel

theorem not_isPackageName_manifestName : ¬ Collection.isPackageName Checksums.manifestName := fun package => by
  simpa [not_isPackagingName_manifestName] using isPackagingName_of_isPackageName package

theorem isSpareName_manifestName : isSpareName Checksums.manifestName := by
  simp [isSpareName]

/-- A name whose ending is not that of a package, and that has another mark in it, is left alone. -/
theorem not_isSpareName_of_ending {name : String} {ending : List Char} (ends : ending <:+ name.toList)
    (other : ∀ extension ∈ Collection.packageExtensions,
      ¬ ending <:+ ("." ++ extension).toList ∧ ¬ ("." ++ extension).toList <:+ ending)
    (mark : '_' ∈ name.toList) : isSpareName name = false := by
  have work := PackageScratch.not_isWorkName_of_mark mark (by decide) (by decide)
  have package : Collection.isPackageName name = false := by
    by_contra package
    obtain ⟨extension, listed, ends'⟩ := Collection.exists_suffix_of_isPackageName (by simpa using package)
    obtain ⟨no, no'⟩ := other extension listed
    exact (List.suffix_or_suffix_of_suffix ends ends').elim no no'
  have manifest : name ≠ Checksums.manifestName := by
    rintro rfl
    exact absurd mark (by decide)
  simp [isSpareName, isPackagingName, work, package, manifest]

namespace Archive

variable {product version : String} {t : Target}

theorem not_isSpareName_fileName : isSpareName (fileName product version t) = false :=
  not_isSpareName_of_ending suffix_fileName (by decide) (by simp [fileName])

theorem not_isSpareName_draftName : isSpareName (draftName product version t) = false :=
  not_isSpareName_of_ending suffix_draftName (by decide) (by simp [draftName, stem])

end Archive

end ReleaseMatrix
