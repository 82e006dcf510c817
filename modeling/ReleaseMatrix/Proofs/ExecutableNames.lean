import ReleaseMatrix.Proofs.SpareNames
import ReleaseMatrix.Proofs.TripleGrammar
import ReleaseMatrix.Proofs.Waiting

namespace ReleaseMatrix

namespace Scratch

/-- The full name of a target's binary below a directory. -/
def suffixed (installDir : Path) (product : String) (t : Target) : Path :=
  (installDir.join "bin").join (product ++ t.exeSuffix)

/-- The name of a binary without a suffix. -/
def bare (installDir : Path) (product : String) : Path :=
  (installDir.join "bin").join product

variable {first later : Workspace} {installDir : Path} {product : String} {t : Target}

theorem binaryBetween_cases (first later : Workspace) (installDir : Path) (product : String) (t : Target) :
    binaryBetween first later installDir product t = bare installDir product ∧ t.exeSuffix ≠ "" ∧
      first.exists? (suffixed installDir product t) = false ∧ later.exists? (bare installDir product) ∨
    binaryBetween first later installDir product t = suffixed installDir product t ∧
      (t.exeSuffix = "" ∨ first.exists? (suffixed installDir product t) ∨
        later.exists? (bare installDir product) = false) := by
  rw [binaryBetween]
  split
  · next only =>
    left
    simpa [suffixed, bare, and_assoc] using only
  · next other =>
    right
    rw [Bool.not_eq_true, Bool.and_eq_false_iff, Bool.and_eq_false_iff, Bool.not_eq_false', or_assoc] at other
    simpa [suffixed, bare] using other

end Scratch

namespace Archive

variable {name product : String} {t : Target}

theorem entryName_join (p : Path) (valid : IsName name) :
    entryName (p.join name) t = if t.exeSuffix.toList <:+ name.toList then name else name ++ t.exeSuffix := by
  rw [entryName, Path.fileName?_join p valid]
  simp [endsWith_iff_suffix]

theorem entryName_suffixed (installDir : Path) (valid : IsName product) :
    entryName (Scratch.suffixed installDir product t) t = product ++ t.exeSuffix := by
  rw [Scratch.suffixed, entryName_join _ (Target.isName_append_exeSuffix valid), if_pos (by simp)]

/-- What the entry for a binary is called, where `isFull` tells whether a binary was found under its full name: it has
the full name, unless the product itself ends in the suffix and a binary was only found without another one. -/
structure Named (product : String) (t : Target) (isFull : Bool) (name : String) : Prop where
  isName : IsName name
  full_iff : name = product ++ t.exeSuffix ↔ t.exeSuffix = "" ∨ isFull ∨ ¬ t.exeSuffix.toList <:+ product.toList
  bare : isFull = false → t.exeSuffix.toList <:+ product.toList → name = product

theorem named_binaryBetween {first later : Workspace} {installDir : Path} (valid : IsName product)
    (found : first.exists? (Scratch.suffixed installDir product t) ∨ later.exists? (Scratch.bare installDir product)) :
    Named product t (first.exists? (Scratch.suffixed installDir product t))
      (entryName (Scratch.binaryBetween first later installDir product t) t) := by
  have validFull := Target.isName_append_exeSuffix (t := t) valid
  obtain ⟨eq, filled, missing, -⟩ | ⟨eq, why⟩ := Scratch.binaryBetween_cases first later installDir product t
  · rw [eq, missing, Scratch.bare, entryName_join _ valid]
    by_cases ends : t.exeSuffix.toList <:+ product.toList
    · have longer : product ≠ product ++ t.exeSuffix := fun same =>
        filled (String.toList_inj.mp (by simpa using congrArg String.toList same))
      rw [if_pos ends]
      exact ⟨valid, by simp [filled, ends, longer], fun _ _ => rfl⟩
    · rw [if_neg ends]
      exact ⟨validFull, by simp [ends], fun _ ends' => absurd ends' ends⟩
  · rw [eq, entryName_suffixed installDir valid]
    have full (filled : t.exeSuffix ≠ "") : first.exists? (Scratch.suffixed installDir product t) := by
      obtain plain | present | absent := why
      · exact absurd plain filled
      · exact present
      · exact found.resolve_right (by simp [absent])
    refine ⟨validFull, iff_of_true rfl ?_, fun missing _ => ?_⟩
    · by_cases plain : t.exeSuffix = ""
      · exact .inl plain
      · exact .inr (.inl (full plain))
    · by_cases plain : t.exeSuffix = ""
      · rw [plain, String.append_empty]
      · simp [full plain] at missing

/-- Where the binary of a product is found, with the suffix of its target or without, the name of its entry is the full
name, a single component. It does not depend on which of the two was found, unless the product itself ends in the
suffix. This holds in files that do not change, and for the name that is chosen after a build. -/
theorem entryName_binary (valid : IsName product) (t : Target) :
    (∀ (w : Workspace) installDir,
      w.exists? (Scratch.suffixed installDir product t) ∨ w.exists? (Scratch.bare installDir product) →
      Named product t (w.exists? (Scratch.suffixed installDir product t))
        (entryName (Scratch.binary w installDir product t) t)) ∧
    ∀ (b : Builder) (q : BuildRequest) (w : Workspace), b.product = product → q.target = t →
      (b.seen q w 0).exists? (b.fullName q) ∨ (b.seen q w 1).exists? (b.bareName q) →
      Named product t ((b.seen q w 0).exists? (b.fullName q)) (entryName (b.chosen q w) t) := by
  refine ⟨fun w installDir found => named_binaryBetween valid found, ?_⟩
  rintro b q w rfl rfl found
  exact named_binaryBetween valid found

theorem entryName_binary_suffixed :
    let w : Workspace := ⟨⟨[(["out"], .directory), (["out", "bin"], .directory),
      (["out", "bin", "mufiz.exe.exe"], .file [77, 90] true)], []⟩, [], []⟩
    let t : Target := ⟨"x86_64-windows"⟩
    IsName "mufiz.exe" ∧ w.exists? (Scratch.suffixed ⟨"/out"⟩ "mufiz.exe" t) ∧
      entryName (Scratch.binary w ⟨"/out"⟩ "mufiz.exe" t) t = "mufiz.exe" ++ t.exeSuffix := by
  intro w t
  have valid : IsName "mufiz.exe" := by decide
  have present : w.exists? (Scratch.suffixed ⟨"/out"⟩ "mufiz.exe" t) := by decide +kernel
  have named := (entryName_binary valid t).1 w ⟨"/out"⟩ (.inl present)
  exact ⟨valid, present, named.full_iff.mpr (.inr (.inl present))⟩

/-- With this product the archive for one and the same target holds another name if the binary was left without a
suffix. -/
theorem entryName_misread :
    let t : Target := ⟨"x86_64-windows"⟩
    let files (names : List String) : Workspace :=
      ⟨⟨[(["out"], .directory), (["out", "bin"], .directory)] ++
        names.map (["out", "bin", ·], .file [77, 90] true), []⟩, [], []⟩
    let name (w : Workspace) := entryName (Scratch.binary w ⟨"/out"⟩ "mufiz.exe" t) t
    IsName "mufiz.exe" ∧ t.isTriple ∧ (files ["mufiz.exe"]).exists? (Scratch.bare ⟨"/out"⟩ "mufiz.exe") ∧
      name (files ["mufiz.exe"]) = "mufiz.exe" ∧ name (files ["mufiz.exe.exe"]) = "mufiz.exe" ++ t.exeSuffix ∧
      name (files ["mufiz.exe", "mufiz.exe.exe"]) = "mufiz.exe" ++ t.exeSuffix ∧ t.exeSuffix = ".exe" := by
  decide +kernel

end Archive

namespace Target

variable {t : Target}

theorem exeSuffix_of_windows (windows : t.os? = some "windows") : t.exeSuffix = ".exe" := by
  rw [exeSuffix, isWindows, windows, beq_self_eq_true, if_pos rfl]

theorem exeSuffix_of_not_windows (other : t.os? ≠ some "windows") : t.exeSuffix = "" ∨ t.exeSuffix = ".wasm" := by
  rw [exeSuffix, isWindows, beq_eq_false_iff_ne.mpr other, if_neg (by decide)]
  split
  · exact .inr rfl
  · exact .inl rfl

/-- The binaries of a target are handled as those of Windows: their names end in its suffix where they are looked for
and where they are archived. -/
structure ShipsExe (t : Target) : Prop where
  suffix : t.exeSuffix = ".exe"
  sought : ∀ (w : Workspace) (installDir : Path) (product : String),
    let full := (installDir.join "bin").join (product ++ ".exe")
    w.exists? full ∨ w.exists? (Scratch.bare installDir product) = false →
      Scratch.binary w installDir product t = full
  archived : ∀ binary, ".exe".toList <:+ (Archive.entryName binary t).toList

/-- The binaries of a target are looked for under other names, whatever there is with the suffix of Windows, and do not
get this suffix in an archive. A build that leaves nothing under the other names fails. -/
structure MissesExe (t : Target) : Prop where
  suffix : t.exeSuffix ≠ ".exe"
  sought : ∀ (first later : Workspace) (installDir : Path) (product : String),
    Scratch.binaryBetween first later installDir product t = Scratch.bare installDir product ∨
      Scratch.binaryBetween first later installDir product t = (installDir.join "bin").join (product ++ ".wasm")
  archived : ∀ binary, ".exe".toList <:+ (Archive.entryName binary t).toList →
    ".exe".toList <:+ (binary.fileName?.getD "").toList
  fails : ∀ (b : Builder) (root installDir : Path) (w u v : Workspace),
    let q : BuildRequest := ⟨t, b.profile t, installDir⟩
    Scratch.directory root t = .ok installDir → (Scratch.reset installDir).exec w = (.ok (), u) →
    (b.compiler.compile q).exec (u.record (.compiled q)) = (.ok (), v) →
    (∀ moment, (b.seen q v moment).exists? (Scratch.bare installDir b.product) = false ∧
      (b.seen q v moment).exists? ((installDir.join "bin").join (b.product ++ ".wasm")) = false) →
    ((b.build t root).exec w).1 = .error (.failed (.binaryMissing t.id (b.chosen q v)))

theorem shipsExe_of_windows (windows : t.os? = some "windows") : t.ShipsExe := by
  have suffix := exeSuffix_of_windows windows
  constructor
  case suffix => exact suffix
  case sought =>
    intro w installDir product full given
    have same : Scratch.suffixed installDir product t = full := by rw [Scratch.suffixed, suffix]
    obtain ⟨-, -, missing, present⟩ | ⟨eq, -⟩ := Scratch.binaryBetween_cases w w installDir product t
    · rw [same] at missing
      simp [missing, present] at given
    · exact eq.trans same
  case archived =>
    intro binary
    rw [Archive.entryName, suffix]
    split
    · next ends => exact endsWith_iff_suffix.mp ends
    · simp

theorem missesExe_of_not_windows (other : t.os? ≠ some "windows") : t.MissesExe := by
  have suffix := exeSuffix_of_not_windows other
  have sought (first later : Workspace) (installDir : Path) (product : String) :
      Scratch.binaryBetween first later installDir product t = Scratch.bare installDir product ∨
        Scratch.binaryBetween first later installDir product t =
          (installDir.join "bin").join (product ++ ".wasm") := by
    obtain ⟨eq, -⟩ | ⟨eq, -⟩ := Scratch.binaryBetween_cases first later installDir product t
    · exact .inl eq
    · obtain plain | wasm := suffix
      · exact .inl (by rw [eq, Scratch.suffixed, plain, String.append_empty, Scratch.bare])
      · exact .inr (by rw [eq, Scratch.suffixed, wasm])
  constructor
  case suffix => obtain plain | wasm := suffix <;> simp [*]
  case sought => exact sought
  case archived =>
    intro binary ends
    rw [Archive.entryName] at ends
    split at ends
    · exact ends
    · next unended =>
      -- Only a target of the other suffix has another ending put to the name.
      obtain plain | wasm := suffix
      · simp [endsWith_iff_suffix, plain] at unended
      · rw [wasm, String.toList_append] at ends
        exact absurd rfl (ne_of_endings ends (List.suffix_append _ _) (by decide) (by decide))
  case fails =>
    intro b root installDir w u v q named emptied compiled absent
    have never : ∀ moment, (b.seen q v moment).exists? (b.chosen q v) = false := by
      intro moment
      obtain eq | eq := sought (b.seen q v 0) (b.seen q v 1) installDir b.product
      · exact (congrArg _ eq).trans (absent moment).1
      · exact (congrArg _ eq).trans (absent moment).2
    exact ((Builder.binaryMissing_iff named emptied compiled).1 _ _).mpr ⟨rfl, rfl, Builder.exists_misses never⟩

/-- Targets of Windows are handled as such just if no version stands behind their system, although every version may
stand there. No other target is handled so. -/
theorem shipsExe_iff_unversioned (t : Target) :
    (if t.os? = some "windows" then t.ShipsExe else t.MissesExe) ∧
    ∀ version, t.isTriple → t.os? = some "windows" → (∀ c ∈ version.toList, Triple.IsPlain c) →
      (t.inVersion version).isTriple ∧ (t.inVersion version).os? = some ("windows." ++ version) ∧
        (t.inVersion version).MissesExe := by
  constructor
  · split
    · next windows => exact shipsExe_of_windows windows
    · next other => exact missesExe_of_not_windows other
  · intro version triple windows plain
    obtain ⟨accepted, os⟩ := isTriple_inVersion triple windows plain
    refine ⟨accepted, os, missesExe_of_not_windows fun unversioned => ?_⟩
    have width := congrArg String.length (Option.some.inj (os.symm.trans unversioned))
    rw [String.length_append] at width
    change 8 + version.length = 7 at width
    omega

theorem shipsExe_iff_unversioned_ten :
    let t : Target := ⟨"x86_64-windows-gnu"⟩
    t.isTriple ∧ t.os? = some "windows" ∧ (∀ c ∈ "10".toList, Triple.IsPlain c) ∧ t.ShipsExe ∧
      (t.inVersion "10").isTriple ∧ (t.inVersion "10").MissesExe := by
  intro t
  have triple : t.isTriple := by decide
  have windows : t.os? = some "windows" := by decide +kernel
  have letters : "10".toList.all Triple.isSegmentChar := by decide
  have plain : ∀ c ∈ "10".toList, Triple.IsPlain c := fun c inside =>
    Triple.isSegmentChar_iff.mp (List.all_eq_true.mp letters c inside)
  obtain ⟨handled, versioned⟩ := t.shipsExe_iff_unversioned
  obtain ⟨accepted, -, misses⟩ := versioned "10" triple windows plain
  exact ⟨triple, windows, plain, by simpa only [if_pos windows] using handled, accepted, misses⟩

/-- One toolchain leaves the same binary for two targets of Windows. It is found for the one without a version, and
said to be missing for the other one, although it is there. -/
theorem misses_windows_version :
    let t : Target := ⟨"x86_64-windows.10"⟩
    let w : Workspace := ⟨⟨[(["s"], .directory)], []⟩, [], []⟩
    let b : Builder := ⟨.fixed [] fun _ => some [(["bin"], .directory), (["bin", "mufiz.exe"], .file [77, 90] true)],
      "mufiz", "", ⟨0, 0, 0⟩, .steady 0⟩
    t.isTriple ∧ (⟨"aarch64-macos.13.0"⟩ : Target).isTriple ∧ t.os? = some ("windows." ++ "10") ∧ t.exeSuffix = "" ∧
      Archive.entryName ⟨"/s/x86_64-windows.10/bin/mufiz"⟩ t = "mufiz" ∧
      ((b.build t ⟨"/s"⟩).exec w).1 =
        .error (.failed (.binaryMissing "x86_64-windows.10" ⟨"/s/x86_64-windows.10/bin/mufiz"⟩)) ∧
      ((b.build t ⟨"/s"⟩).exec w).2.isFile ⟨"/s/x86_64-windows.10/bin/mufiz.exe"⟩ ∧
      ((b.build ⟨"x86_64-windows"⟩ ⟨"/s"⟩).exec w).1 = .ok ⟨"/s/x86_64-windows/bin/mufiz.exe"⟩ := by
  decide +kernel

end Target

end ReleaseMatrix
