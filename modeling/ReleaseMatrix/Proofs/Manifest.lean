import ReleaseMatrix.Packaging
import ReleaseMatrix.Proofs.PackageSteps

namespace ReleaseMatrix

namespace Text

theorem Utf8.toList_loop (bytes : ByteArray) (i : Nat) (read : List UInt8) :
    ByteArray.toList.loop bytes i read = read.reverse ++ bytes.data.toList.drop i := by
  fun_induction ByteArray.toList.loop bytes i read with
  | case1 i read inside ih =>
    have bound : i < bytes.data.toList.length := by simpa using inside
    have next : bytes.get! i = bytes.data.toList[i] := by
      simp [ByteArray.get!, getElem!_pos bytes.data i (by simpa using bound)]
    rw [ih, List.drop_eq_getElem_cons bound, next]
    simp
  | case2 i read outside =>
    have past : bytes.data.toList.length ≤ i := by simpa using outside
    rw [List.drop_eq_nil_of_le past, List.append_nil]

/-- What is encoded can be decoded. -/
theorem Utf8.decode?_encode (s : String) : decode? (encode s) = some s := by
  have bytes : (⟨(encode s).toArray⟩ : ByteArray) = s.toUTF8 := by
    rw [encode, ByteArray.toList, toList_loop]
    simp
  rw [decode?, bytes, String.fromUTF8?, String.toUTF8_eq_toByteArray, dif_pos s.isValidUTF8]
  rfl

/-- Where every line is ended by a line break and has none of its own, splitting gives the lines. -/
theorem splitChars_lines {lines : List (List Char)} (plain : ∀ line ∈ lines, '\n' ∉ line) :
    splitChars '\n' (lines.flatMap (· ++ ['\n'])) = lines ++ [[]] := by
  induction lines with
  | nil => rfl
  | cons line lines ih =>
    have rest := ih fun other member => plain other (List.mem_cons_of_mem _ member)
    rw [List.flatMap_cons, List.append_assoc, List.singleton_append, splitChars_append_sep, rest,
      splitChars_of_not_mem (plain line List.mem_cons_self), List.singleton_append, List.cons_append]

theorem split_lines {lines : List String} (plain : ∀ line ∈ lines, '\n' ∉ line.toList) :
    split '\n' (String.join (lines.map (· ++ "\n"))) = lines ++ [""] := by
  have letters : (String.join (lines.map (· ++ "\n"))).toList = (lines.map String.toList).flatMap (· ++ ['\n']) := by
    simp [String.toList_join, List.flatMap_map]
  rw [split, letters, splitChars_lines (by simpa using plain)]
  simp [Function.comp_def]

end Text

namespace FileTree

theorem pairwise_insertName {all : List String} (name : String) (sorted : all.Pairwise (· ≤ ·)) :
    (insertName name all).Pairwise (· ≤ ·) := by
  induction sorted with
  | nil => simp [insertName]
  | @cons next all least sorted ih =>
    unfold insertName
    split
    · next before =>
      exact .cons (fun other member => (List.mem_cons.mp member).elim (fun same => same ▸ before)
        fun later => String.le_trans before (least other later)) (.cons least sorted)
    · next after =>
      refine .cons (fun other member => ?_) ih
      obtain rfl | later := mem_insertName.mp member
      · exact (String.le_total other next).resolve_left after
      · exact least other later

theorem pairwise_names (t : FileTree) (l : Location) : (t.names l).Pairwise (· ≤ ·) := by
  unfold names
  induction (t.nodes.filterMap _ : List String) with
  | nil => exact .nil
  | cons name below ih =>
    rw [List.foldr_cons, addName]
    split
    · exact ih
    · exact pairwise_insertName name ih

/-- The names that are picked in a directory depend on the places of these names alone. -/
theorem filter_names_congr {t s : FileTree} {l : Location} {picks : String → Bool}
    (same : ∀ name, picks name → s.get? (l ++ [name]) = t.get? (l ++ [name])) :
    (s.names l).filter picks = (t.names l).filter picks := by
  refine List.Perm.eq_of_pairwise (fun _ _ _ _ => String.le_antisymm) ((pairwise_names s l).filter _)
    ((pairwise_names t l).filter _) ?_
  refine (List.perm_ext_iff_of_nodup ((nodup_names s l).filter _) ((nodup_names t l).filter _)).mpr fun name => ?_
  simp only [List.mem_filter, mem_names]
  exact and_congr_left fun picked => by rw [same name picked]

end FileTree


theorem newline_not_mem_hexByte (b : UInt8) : '\n' ∉ hexByte b := by
  have digits : ∀ n : Fin 16, Nat.digitChar n ≠ '\n' := by decide
  have high : b.toNat / 16 < 16 := by have := b.toNat_lt; omega
  have low : b.toNat % 16 < 16 := by omega
  have first := digits ⟨_, high⟩
  have second := digits ⟨_, low⟩
  simp only [hexByte, List.mem_cons, List.not_mem_nil, or_false, not_or]
  exact ⟨Ne.symm first, Ne.symm second⟩

theorem newline_not_mem_hex (bytes : Bytes) : '\n' ∉ (hex bytes).toList := by
  simp only [hex, String.toList_ofList, List.mem_flatMap, not_exists, not_and]
  exact fun b _ => newline_not_mem_hexByte b

namespace Checksums

open FileTree (usable)

variable {w v : Workspace} {dir : Path} {l : Location} {name s : String} {content : Bytes}

/-- What the regular file with a name in a directory holds. -/
def held? (w : Workspace) (l : Location) (name : String) : Option Bytes :=
  (w.files.get? (l ++ [name])).bind fun e => if e.isFile then e.content? else none

/-- The regular files with some names that belong in a manifest, with what they hold. -/
def artifactsOf (w : Workspace) (l : Location) (names : List String) : List (String × Bytes) :=
  (names.filter isListed).filterMap fun name => (held? w l name).map (name, ·)

/-- The regular files in a directory that belong in a manifest, in the order of their names. -/
def artifacts (w : Workspace) (l : Location) : List (String × Bytes) :=
  artifactsOf w l (w.files.names l)

/-- The path of a file in a directory can be used. A longer path than the system allows cannot. -/
def isReachable (dir : Path) (entry : String × Bytes) : Bool :=
  (usable dir entry.1).toBool

/-- The files in a directory that its manifest covers. -/
def listing (w : Workspace) (dir : Path) (l : Location) : List (String × Bytes) :=
  (artifacts w l).filter (isReachable dir)

/-- The paths of the files in a directory that its manifest covers. -/
def paths (w : Workspace) (dir : Path) (l : Location) : List Path :=
  (listing w dir l).map fun entry => dir.join entry.1

/-- What a manifest says of a file: its digest and its name. -/
def record (entry : String × Bytes) : String :=
  hex (Sha256.digest entry.2) ++ "  " ++ entry.1

theorem newline_not_mem_record {entry : String × Bytes} (plain : '\n' ∉ entry.1.toList) :
    '\n' ∉ (record entry).toList := by
  simp [record, plain, newline_not_mem_hex]

/-- The listed places of a directory have names, and no links stand there. -/
def Orderly (l : Location) (w : Workspace) : Prop :=
  ∀ name, isListed name → ∀ e, w.files.get? (l ++ [name]) = some e → IsName name ∧ ∀ target, e ≠ .link target

/-- At each listed place of a directory stands what was there before, or a file. -/
def Restocked (l : Location) (w v : Workspace) : Prop :=
  ∀ name, isListed name → v.files.get? (l ++ [name]) = w.files.get? (l ++ [name]) ∨
    IsName name ∧ ∃ e, v.files.get? (l ++ [name]) = some e ∧ e.isFile

theorem Orderly.restocked (orderly : Orderly l w) (restocked : Restocked l w v) : Orderly l v := by
  intro name listed e there
  obtain same | ⟨valid, d, found, file⟩ := restocked name listed
  · exact orderly name listed e (same.symm.trans there)
  · obtain rfl := Option.some_inj.mp (found.symm.trans there)
    exact ⟨valid, by rintro target rfl; cases file⟩

theorem find_of_orderly (leads : w.Leads dir l) (orderly : Orderly l w) (listed : isListed name) {e : Entry}
    (there : w.files.get? (l ++ [name]) = some e) :
    w.find (dir.join name) = (usable dir name).map fun _ => (l ++ [name], e) := by
  obtain ⟨valid, noLink⟩ := orderly name listed e there
  have unlinked (target : Path) (link : w.files.get? (l ++ [name]) = some (.link target)) : False :=
    noLink target (Option.some_inj.mp (there.symm.trans link))
  rw [FileM.find_join leads valid unlinked, there]
  cases usable dir name <;> rfl

theorem held?_eq_some : held? w l name = some content ↔
    ∃ e, w.files.get? (l ++ [name]) = some e ∧ e.isFile ∧ e.content? = some content := by
  unfold held?
  cases w.files.get? (l ++ [name]) <;> simp

theorem isFile_join (leads : w.Leads dir l) (orderly : Orderly l w) (listed : isListed name)
    (there : name ∈ w.files.names l) :
    w.isFile (dir.join name) = ((usable dir name).toBool && (held? w l name).isSome) := by
  obtain ⟨e, found⟩ := Option.isSome_iff_exists.mp (FileTree.mem_names.mp there)
  rw [Workspace.isFile, Workspace.entry?, held?, find_of_orderly leads orderly listed found, found]
  cases usable dir name with
  | error fault => rfl
  | ok _ =>
    by_cases file : e.isFile
    · obtain ⟨content, holds⟩ := e.exists_content file
      simp [Except.map, Except.toBool, file, holds]
    · simp [Except.map, Except.toBool, file]

theorem read_of_held? (leads : w.Leads dir l) (orderly : Orderly l w) (listed : isListed name)
    (fits : usable dir name = .ok ()) (held : held? w l name = some content) :
    w.read (dir.join name) = .ok content := by
  obtain ⟨e, found, -, holds⟩ := held?_eq_some.mp held
  rw [Workspace.read, find_of_orderly leads orderly listed found, fits]
  simp [Except.map, bind, Except.bind, holds, pure, Except.pure]

/-- A line is made for each regular file whose path can be used. -/
theorem lines_eq (leads : w.Leads dir l) (orderly : Orderly l w) {names lines : List String}
    (present : ∀ name ∈ names, name ∈ w.files.names l)
    (ok : ((names.filter fun name => w.isFile (dir.join name) && isListed name).mapM fun name => do
      pure (line (← digestOf w (dir.join name)) name)) = Except.ok lines) :
    lines = (((artifactsOf w l names).filter (isReachable dir)).map record).map (· ++ "\n") := by
  induction names generalizing lines with
  | nil => exact (Except.ok.inj ok).symm
  | cons name names ih =>
    have later : ∀ other ∈ names, other ∈ w.files.names l := fun other member =>
      present other (List.mem_cons_of_mem _ member)
    by_cases listed : isListed name
    · have isFile := isFile_join leads orderly listed (present name List.mem_cons_self)
      cases held : held? w l name with
      | none =>
        simp only [List.filter_cons, isFile, held, Option.isSome_none, Bool.and_false, Bool.false_and,
          Bool.false_eq_true, if_false] at ok
        simpa [artifactsOf, listed, held] using ih later ok
      | some content =>
        cases fits : usable dir name with
        | error fault =>
          simp only [List.filter_cons, isFile, fits, Except.toBool, Bool.false_and, Bool.false_eq_true, if_false] at ok
          simpa [artifactsOf, listed, held, isReachable, fits, Except.toBool] using ih later ok
        | ok _ =>
          have read := read_of_held? leads orderly listed fits held
          simp only [List.filter_cons, isFile, fits, Except.toBool, held, Option.isSome_some, listed, Bool.and_self,
            if_true, List.mapM_cons, digestOf, read, Except.mapError, Except.map, bind, Except.bind, pure,
            Except.pure] at ok
          split at ok
          · cases ok
          · next others worked =>
            rw [← Except.ok.inj ok, ih later worked]
            simp [artifactsOf, listed, held, isReachable, fits, Except.toBool, record, line]
    · simp only [List.filter_cons, listed, Bool.and_false, Bool.false_eq_true, if_false] at ok
      simpa [artifactsOf, listed] using ih later ok

/-- The manifest of a directory has a record for each of its files, and nothing else. -/
theorem text_eq (leads : w.Leads dir l) (orderly : Orderly l w) (ok : text w dir = .ok s) :
    s = String.join (((listing w dir l).map record).map (· ++ "\n")) := by
  rw [text, listedNames, Workspace.list_of_leads leads] at ok
  cases checked : FileTree.checkPath dir with
  | error fault => simp [checked, Except.map, Except.mapError, bind, Except.bind] at ok
  | ok _ =>
    simp only [checked, Except.map, Except.mapError, bind, Except.bind, pure, Except.pure] at ok
    split at ok
    · cases ok
    · next all worked => rw [← Except.ok.inj ok, lines_eq leads orderly (fun _ => id) worked, listing, artifacts]

/-- Writing the manifest puts its text into the directory, and changes nothing else. -/
theorem exec_write_ok (leads : w.Leads dir l)
    (plain : ∀ e, w.files.get? (l ++ [manifestName]) = some e → e = .directory ∨ e.isFile)
    (alone : w.files.Alone (l ++ [manifestName])) {p : Path} (run : (write dir manifestName).exec w = (.ok p, v)) :
    p = dir.join manifestName ∧ usable dir manifestName = .ok () ∧ ∃ s executable, text w dir = .ok s ∧
      v = FileM.changed w (·.put (l ++ [manifestName]) (.file (Text.Utf8.encode s) executable)) := by
  have valid : IsName manifestName := ⟨by decide, by decide, by decide, by decide⟩
  obtain ⟨x, u, look, run⟩ := TaskM.exec_bind_ok run
  obtain ⟨rfl, rfl⟩ : w = x ∧ w = u := by simpa using look
  obtain ⟨s, u, made, run⟩ := TaskM.exec_bind_ok run
  obtain ⟨written, rfl⟩ : text w dir = .ok s ∧ w = u := by simpa using made
  obtain ⟨_, u, put, run⟩ := TaskM.exec_bind_ok run
  obtain ⟨rfl, rfl⟩ : dir.join manifestName = p ∧ u = v := by simpa using run
  obtain ⟨_, x, above, put⟩ := TaskM.exec_bind_ok put
  obtain ⟨outcome, parent⟩ := Files.exec_makeParent_join leads valid
  obtain ⟨-, rfl⟩ := Prod.ext_iff.mp (parent.symm.trans above)
  have put := TaskM.exec_describe_ok put
  have noLink (target : Path) : w.files.get? (l ++ [manifestName]) ≠ some (.link target) := fun link => by
    simpa [Entry.isFile] using plain _ link
  rw [FileM.write_join leads valid noLink alone] at put
  cases fits : usable dir manifestName with
  | error fault => simp [fits] at put
  | ok _ =>
    refine ⟨rfl, rfl, s, ?_⟩
    cases there : w.files.get? (l ++ [manifestName]) with
    | none =>
      simp only [fits, there] at put
      exact ⟨_, written, (congrArg Prod.snd put).symm⟩
    | some e =>
      obtain rfl | file := plain e there
      · simp [fits, there] at put
      · cases e with
        | file | program =>
          simp only [fits, there] at put
          exact ⟨_, written, (congrArg Prod.snd put).symm⟩
        | directory | void | queue | link => cases file

/-- What is listed depends on the places that are listed alone. -/
theorem artifacts_congr (same : ∀ name, isListed name → v.files.get? (l ++ [name]) = w.files.get? (l ++ [name])) :
    artifacts v l = artifacts w l := by
  rw [artifacts, artifacts, artifactsOf, artifactsOf, FileTree.filter_names_congr same]
  refine List.filterMap_congr fun name member => ?_
  rw [held?, held?, same name (List.mem_filter.mp member).2]

theorem nodup_artifacts (w : Workspace) (l : Location) : ((artifacts w l).map Prod.fst).Nodup := by
  have firsts (all : List String) : (all.filterMap fun name => (held? w l name).map (name, ·)).map Prod.fst =
      all.filter fun name => (held? w l name).isSome := by
    induction all with
    | nil => rfl
    | cons name all ih => cases held : held? w l name <;> simp [held, ih]
  rw [artifacts, artifactsOf, firsts]
  exact ((FileTree.nodup_names w.files l).filter _).filter _

theorem nodup_listing (w : Workspace) (dir : Path) (l : Location) : ((listing w dir l).map Prod.fst).Nodup :=
  (nodup_artifacts w l).sublist (List.filter_sublist.map Prod.fst)

/-- A file that stands at a listed place is listed. -/
theorem mem_paths (listed : isListed name) (fits : usable dir name = .ok ()) {e : Entry}
    (there : w.files.get? (l ++ [name]) = some e) (file : e.isFile) : dir.join name ∈ paths w dir l := by
  obtain ⟨content, holds⟩ := e.exists_content file
  have held := held?_eq_some.mpr ⟨e, there, file, holds⟩
  have artifact : (name, content) ∈ artifacts w l :=
    List.mem_filterMap.mpr ⟨name, List.mem_filter.mpr ⟨FileTree.mem_names.mpr (by simp [there]), listed⟩, by simp [held]⟩
  exact List.mem_map.mpr ⟨(name, content), List.mem_filter.mpr ⟨artifact, by simp [isReachable, fits, Except.toBool]⟩, rfl⟩

theorem not_isListed_manifestName : isListed manifestName = false := by decide +kernel

/-- The text of the manifest in a directory. -/
def manifest? (w : Workspace) (dir : Path) : Option String :=
  (w.read (dir.join manifestName)).toOption.bind Text.Utf8.decode?

/-- The manifest that is written has a record for each file that the directory holds then, and nothing else. -/
theorem manifest?_of_write (leads : w.Leads dir l) (orderly : Orderly l w)
    (plain : ∀ e, w.files.get? (l ++ [manifestName]) = some e → e = .directory ∨ e.isFile)
    (alone : w.files.Alone (l ++ [manifestName])) {p : Path} (run : (write dir manifestName).exec w = (.ok p, v))
    (leads' : v.Leads dir l) :
    p = dir.join manifestName ∧ listing v dir l = listing w dir l ∧
      manifest? v dir = some (String.join (((listing v dir l).map record).map (· ++ "\n"))) := by
  obtain ⟨path, fits, s, executable, written, rfl⟩ := exec_write_ok leads plain alone run
  have valid : IsName manifestName := ⟨by decide, by decide, by decide, by decide⟩
  have root : l ++ [manifestName] ≠ [] := by simp
  have there : (FileM.changed w (·.put (l ++ [manifestName]) (.file (Text.Utf8.encode s) executable))).files.get?
      (l ++ [manifestName]) = some (.file (Text.Utf8.encode s) executable) := by
    simp [FileM.changed, FileTree.get?_put root]
  have same (name : String) (listed : isListed name) :
      (FileM.changed w (·.put (l ++ [manifestName]) (.file (Text.Utf8.encode s) executable))).files.get?
        (l ++ [name]) = w.files.get? (l ++ [name]) := by
    rw [FileM.changed, FileTree.get?_put root, if_neg]
    intro same
    obtain rfl : name = manifestName := by simpa using same
    simp [not_isListed_manifestName] at listed
  have listing : listing _ dir l = listing w dir l := congrArg (List.filter (isReachable dir)) (artifacts_congr same)
  refine ⟨path, listing, ?_⟩
  rw [listing, ← text_eq leads orderly written, manifest?, Workspace.read,
    Workspace.find_join_of_file leads' valid fits there rfl]
  exact Text.Utf8.decode?_encode s

end Checksums

end ReleaseMatrix
