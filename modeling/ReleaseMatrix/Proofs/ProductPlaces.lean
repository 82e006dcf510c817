import ReleaseMatrix.CommandLine.Invocation
import ReleaseMatrix.CommandLine.Run
import ReleaseMatrix.Proofs.AcceptedVersion
import ReleaseMatrix.Proofs.FixedCompiler
import ReleaseMatrix.Proofs.PathEnding
import ReleaseMatrix.Proofs.ReleaseNames

namespace ReleaseMatrix

namespace Path

variable {dir : Path} {q : String} {tail : List Char}

/-- The path is that of an entry directly inside a directory. -/
def IsChild (dir p : Path) : Prop :=
  ∃ name, IsName name ∧ p.components = dir.components ++ [.name name]

theorem IsChild.length {p : Path} (child : dir.IsChild p) : p.components.length = dir.components.length + 1 := by
  obtain ⟨name, -, eq⟩ := child
  simp [eq]

/-- A text that leads nowhere else before its last piece: it is not absolute, and has at most single dots before
its last slash. -/
def StaysInside (q : String) : Prop :=
  q.toList.head? ≠ some '/' ∧ ∀ piece ∈ (Text.splitChars '/' q.toList).dropLast, isSilent piece

instance (q : String) : Decidable (StaysInside q) :=
  inferInstanceAs (Decidable (_ ∧ _))

theorem ofPieces_eq_nil {pieces : List (List Char)} : ofPieces pieces = [] ↔ ∀ piece ∈ pieces, isSilent piece := by
  simp [ofPieces, List.filter_eq_nil_iff]

theorem exists_split (cs : List Char) : ∃ pieces last, Text.splitChars '/' cs = pieces ++ [last] ∧ '/' ∉ last := by
  have split := (List.dropLast_concat_getLast (Text.splitChars_ne_nil '/' cs)).symm
  exact ⟨_, _, split, Text.not_mem_of_mem_splitChars (List.getLast_mem _)⟩

theorem head?_components {p : Path} (absolute : p.text.toList.head? = some '/') :
    p.components.head? = some .root := by
  obtain ⟨cs, letters⟩ := List.head?_eq_some_iff.mp absolute
  rw [components, letters]
  rfl

theorem isChild_join_name {name : String} (nonempty : dir.text ≠ "") (valid : IsName name) :
    dir.IsChild (dir.join name) :=
  ⟨name, valid, by rw [components_join dir nonempty valid.head_ne_slash, valid.split_eq, ofPieces_name valid]⟩

/-- With letters after it that make a name of its last piece, a text names an entry of every directory just if
it leads nowhere else. -/
theorem isChild_join_iff (noSlash : '/' ∉ tail) (mark : '_' ∈ tail) :
    (∀ dir : Path, dir.text ≠ "" → dir.IsChild (dir.join (q ++ String.ofList tail))) ↔ StaysInside q := by
  obtain ⟨pieces, last, split, plain⟩ := exists_split q.toList
  have named : IsName (String.ofList (last ++ tail)) := by
    have inside : '_' ∈ (String.ofList (last ++ tail)).toList := by simp [mark]
    refine ⟨?_, ?_, ?_, by simp [plain, noSlash]⟩ <;>
      · intro eq
        simp [eq] at inside
  have whole : Text.splitChars '/' (q ++ String.ofList tail).toList = pieces ++ [last ++ tail] := by
    simpa using Text.splitChars_append split noSlash
  have ended : ofPieces (pieces ++ [last ++ tail]) =
      ofPieces pieces ++ [.name (String.ofList (last ++ tail))] := by
    have := ofPieces_name named
    rw [String.toList_ofList] at this
    rw [ofPieces_append, this]
  have relative : (q ++ String.ofList tail).toList.head? ≠ some '/' ↔ q.toList.head? ≠ some '/' := by
    cases letters : q.toList with
    | nil =>
      have other : tail.head? ≠ some '/' := fun slash => noSlash (List.mem_of_head? slash)
      simpa [letters] using other
    | cons c cs => simp [letters]
  constructor
  · intro inside
    obtain ⟨name, -, eq⟩ := inside ⟨"a"⟩ (by decide)
    have start : (q ++ String.ofList tail).toList.head? ≠ some '/' := by
      intro absolute
      have first : (Path.join ⟨"a"⟩ (q ++ String.ofList tail)).components.head? = some .root := by
        rw [join, if_pos absolute]
        exact head?_components absolute
      have other : (⟨"a"⟩ : Path).components = [.name "a"] := by decide
      simp [eq, other] at first
    refine ⟨relative.mp start, ?_⟩
    rw [components_join ⟨"a"⟩ (by decide) start, whole, ended, List.append_cancel_left_eq] at eq
    have none : ofPieces pieces = [] := by simpa using congrArg List.length eq
    simpa [split] using ofPieces_eq_nil.mp none
  · rintro ⟨start, silent⟩ dir nonempty
    refine ⟨_, named, ?_⟩
    have none : ofPieces pieces = [] := ofPieces_eq_nil.mpr (by simpa [split] using silent)
    rw [components_join dir nonempty (relative.mpr start), whole, ended, none, List.nil_append]

end Path

open ReleaseMatrix.Path (StaysInside)

variable {product version : String} {t : Target}

theorem Archive.inside_iff (plain : '/' ∉ version.toList) (triple : t.isTriple) :
    (∀ outDir : Path, outDir.text ≠ "" → outDir.IsChild ((⟨product, outDir⟩ : Archiver).path version t)) ↔
      StaysInside product := by
  have name : fileName product version t =
      product ++ String.ofList ("_" ++ version ++ "_" ++ t.id ++ "." ++ extension).toList := by
    simp [fileName, String.append_assoc]
  have noSlash : '/' ∉ ("_" ++ version ++ "_" ++ t.id ++ "." ++ extension).toList := by
    simp [plain, (Target.isName_id triple).noSlash, extension]
  simp only [Archiver.path, name]
  exact Path.isChild_join_iff noSlash (by simp)

theorem PackageSpec.inside_iff {s : PackageSpec} (plain : '/' ∉ version.toList) (triple : s.target.isTriple) :
    (∀ outDir : Path, outDir.text ≠ "" → outDir.IsChild (outDir.join (s.releaseName product version))) ↔
      StaysInside product := by
  have name : s.releaseName product version =
      product ++ String.ofList ("_" ++ version ++ "_" ++ s.target.id ++ "." ++ s.format.extension).toList := by
    simp [releaseName, String.append_assoc]
  have noSlash : '/' ∉ ("_" ++ version ++ "_" ++ s.target.id ++ "." ++ s.format.extension).toList := by
    cases format : s.format <;> simp [plain, (Target.isName_id triple).noSlash, PackageFormat.extension]
  simp only [name]
  exact Path.isChild_join_iff noSlash (by simp)

theorem Scratch.isChild_binary (valid : IsName product) (w : Workspace) (installDir : Path) :
    (installDir.join "bin").IsChild (binary w installDir product t) := by
  have nonempty : (installDir.join "bin").text ≠ "" := fun empty => by
    have isName : IsName "bin" := ⟨by decide, by decide, by decide, by decide⟩
    have := installDir.text_join_ne_empty isName
    simp [empty] at this
  simp only [binary, binaryBetween]
  split
  · exact Path.isChild_join_name nonempty valid
  · exact Path.isChild_join_name nonempty (Target.isName_append_exeSuffix valid)

/-- Archives and packages are entries of the output directory, whichever it is, just if the product's name leads
nowhere else before its last slash. If it is the name of an entry, the binary is one of the directory for
binaries. -/
theorem Release.places_inside {w : Workspace} {explicit? : Option String} {projectDir : Path}
    (resolved : Version.resolve w explicit? projectDir = .ok version) (triple : t.isTriple) :
    ((∀ outDir : Path, outDir.text ≠ "" → outDir.IsChild ((⟨product, outDir⟩ : Archiver).path version t)) ↔
      StaysInside product) ∧
    (∀ s : PackageSpec, s.target = t →
      ((∀ outDir : Path, outDir.text ≠ "" → outDir.IsChild (outDir.join (s.releaseName product version))) ↔
        StaysInside product)) ∧
    (IsName product → ∀ v installDir, (Path.join installDir "bin").IsChild (Scratch.binary v installDir product t)) := by
  have plain := Version.noSlash_of_resolve resolved
  refine ⟨Archive.inside_iff plain triple, ?_, fun valid v installDir => Scratch.isChild_binary valid v installDir⟩
  rintro s rfl
  exact PackageSpec.inside_iff plain triple

theorem Release.places_inside_standard :
    let w : Workspace := ⟨.empty, [], []⟩
    Version.resolve w (some "1.0.0") ⟨"/"⟩ = .ok "1.0.0" ∧ (⟨"x86_64-linux"⟩ : Target).isTriple ∧
      ∀ outDir : Path, outDir.text ≠ "" →
        outDir.IsChild ((⟨ReleaseConfig.defaultProduct, outDir⟩ : Archiver).path "1.0.0" ⟨"x86_64-linux"⟩) := by
  intro w
  have resolved : Version.resolve w (some "1.0.0") ⟨"/"⟩ = .ok "1.0.0" := rfl
  have triple : (⟨"x86_64-linux"⟩ : Target).isTriple := by decide
  exact ⟨resolved, triple, (Release.places_inside resolved triple).1.mpr (by decide)⟩

/-- With this name for the product, the archive leaves the output directory, and what is archived and removed is
a file of the project itself. -/
theorem Release.places_outside :
    let source : Location := ["p", "q", "build.zig"]
    let w : Workspace := ⟨⟨[(["p"], .directory), (["p", "q"], .directory), (source, .file [7] false),
      (["p", "q", "pkg"], .directory), (["p", "q", ".release-scratch"], .directory)], []⟩, ["p", "q"], []⟩
    let t : Target := ⟨"x86_64-linux"⟩
    let words := ["release", "--release-version", "1.0.0", "--product", "../../../build.zig"]
    ∃ style project build package config installDir,
      CommandLine.Invocation.ofWords (fun _ => none) words = .ok ⟨style, some (.release project build package)⟩ ∧
      CommandLine.configure 1 w project package ⟨[t], none⟩ = .ok config ∧
      Scratch.directory config.scratchDir t = .ok installDir ∧
      ¬ config.outDir.IsChild ((⟨config.product, config.outDir⟩ : Archiver).path config.version t) ∧
      ¬ (installDir.join "bin").IsChild (Scratch.binary w installDir config.product t) ∧
      let r : Release := ⟨config, .fixed source fun _ => some [(["bin"], .directory)], ⟨fun _ _ => pure ()⟩⟩
      w.files.get? source = some (.file [7] false) ∧ (r.buildArchives [t] w).2.files.get? source = none := by
  intro source w t words
  let config : ReleaseConfig :=
    { ReleaseConfig.standard 1 ⟨"/p/q"⟩ "1.0.0" with product := "../../../build.zig" }
  let installDir : Path := ⟨"/p/q/.release-scratch/x86_64-linux"⟩
  refine ⟨⟨0, false, false⟩, ⟨⟨⟨"."⟩, none⟩, none, some "1.0.0", some "../../../build.zig"⟩, ⟨2, ⟨"zig"⟩, 2000, false⟩,
    ⟨[], ⟨"fpm"⟩⟩, config, installDir, ?_, ?_, ?_, ?_, ?_, ?_, ?_⟩
  · decide +kernel
  · rfl
  · rw [Scratch.directory, if_pos (by decide +kernel)]
    exact congrArg Except.ok (by decide)
  · intro child
    exact absurd child.length (by decide)
  · intro child
    exact absurd child.length (by decide +kernel)
  · decide
  · decide +kernel

end ReleaseMatrix
