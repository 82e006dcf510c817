import ReleaseMatrix.Proofs.Conserving
import ReleaseMatrix.Proofs.ManifestCover

namespace ReleaseMatrix

namespace Text

namespace Utf8

theorem encode_eq (s : String) : encode s = s.toList.flatMap String.utf8EncodeChar := by
  have letters : s.toByteArray = (s.toList.flatMap String.utf8EncodeChar).toByteArray := by
    conv => lhs; rw [← String.ofList_toList (s := s), String.toByteArray_ofList]
    rfl
  rw [encode, ByteArray.toList, toList_loop, String.toUTF8_eq_toByteArray, letters]
  simp

theorem encode_inj {a b : String} (same : encode a = encode b) : a = b := by
  have decoded := decode?_encode a
  rw [same, decode?_encode] at decoded
  exact (Option.some_inj.mp decoded).symm

theorem ofNat_lt_iff {m n : Nat} (hm : m < 256) (hn : n < 256) : UInt8.ofNat m < UInt8.ofNat n ↔ m < n := by
  rw [UInt8.lt_iff_toNat_lt, UInt8.toNat_ofNat_of_lt' hm, UInt8.toNat_ofNat_of_lt' hn]

theorem ofNat_inj {m n : Nat} (hm : m < 256) (hn : n < 256) : UInt8.ofNat m = UInt8.ofNat n ↔ m = n := by
  rw [← UInt8.toNat_inj, UInt8.toNat_ofNat_of_lt' hm, UInt8.toNat_ofNat_of_lt' hn]

theorem lt_iff_digits {m n : Nat} : m < n ↔ m / 64 < n / 64 ∨ m / 64 = n / 64 ∧ m % 64 < n % 64 := by
  omega

/-- The first byte in which two characters differ is smaller for the smaller one, whatever follows them. -/
theorem utf8EncodeChar_append_lt {c d : Char} (before : c < d) (x y : List UInt8) :
    String.utf8EncodeChar c ++ x < String.utf8EncodeChar d ++ y := by
  have earlier : c.val.toNat < d.val.toNat := before
  have bound : d.val.toNat < 0x110000 := by
    have valid := d.valid
    simp only [UInt32.isValidChar, Nat.isValidChar] at valid
    omega
  unfold String.utf8EncodeChar
  generalize c.val.toNat = m at earlier
  generalize d.val.toNat = n at earlier bound
  -- In base 64 the numbers are compared digit by digit, as the bytes are.
  have upper (k : Nat) : k / 4096 = k / 64 / 64 ∧ k / 262144 = k / 64 / 64 / 64 := by omega
  simp only [(upper m).1, (upper m).2, (upper n).1, (upper n).2]
  have digits : m / 64 / 64 / 64 < n / 64 / 64 / 64 ∨ m / 64 / 64 / 64 = n / 64 / 64 / 64 ∧
      (m / 64 / 64 % 64 < n / 64 / 64 % 64 ∨ m / 64 / 64 % 64 = n / 64 / 64 % 64 ∧
        (m / 64 % 64 < n / 64 % 64 ∨ m / 64 % 64 = n / 64 % 64 ∧ m % 64 < n % 64)) := by
    rcases lt_iff_digits.mp earlier with above | ⟨above, last⟩
    · rcases lt_iff_digits.mp above with above | ⟨above, third⟩
      · rcases lt_iff_digits.mp above with above | ⟨above, second⟩ <;> omega
      · omega
    · omega
  split_ifs <;> simp only [List.cons_append, List.nil_append, List.cons_lt_cons_iff] <;>
    simp (disch := omega) only [ofNat_lt_iff, ofNat_inj] <;> omega

/-- Texts are ordered as their bytes are. -/
theorem encode_lt {a b : String} (before : a < b) : encode a < encode b := by
  have before : List.Lex (· < ·) a.toList b.toList := List.lex_lt.mpr before
  rw [encode_eq, encode_eq]
  generalize a.toList = cs, b.toList = ds at before
  induction before with
  | @nil d ds =>
    have first : (d :: ds).flatMap String.utf8EncodeChar ≠ [] := by
      have size := d.utf8Size_pos
      rw [List.flatMap_cons, ← List.length_pos_iff, List.length_append, String.length_utf8EncodeChar]
      omega
    obtain ⟨byte, bytes, shape⟩ := List.exists_cons_of_ne_nil first
    rw [shape]
    exact List.nil_lt_cons byte bytes
  | rel earlier =>
    rw [List.flatMap_cons, List.flatMap_cons]
    exact utf8EncodeChar_append_lt earlier _ _
  | cons _ later =>
    rw [List.flatMap_cons, List.flatMap_cons]
    exact List.append_left_lt later

end Utf8

end Text

/-- At each further place of a file something stands. -/
theorem FileTree.Linked.isSome_of_mem_places {t : FileTree} {k l : Location} (linked : t.Linked) (twin : k ∈ t.places l)
    (other : k ≠ l) : (t.get? k).isSome := by
  rw [FileTree.places] at twin
  cases found : t.groups.find? (·.contains l) with
  | none =>
    rw [found, Option.getD_none, List.mem_singleton] at twin
    exact absurd twin other
  | some group =>
    rw [found, Option.getD_some] at twin
    exact linked.present group (List.mem_of_find?_eq_some found) k twin

theorem Sha256.length_digest (message : Bytes) : (digest message).length = 32 := by
  simp [digest, State.bytes, bigEndian]

theorem length_hex (bytes : Bytes) : (hex bytes).length = 2 * bytes.length := by
  rw [hex, String.length_ofList]
  induction bytes with
  | nil => rfl
  | cons b bytes ih =>
    rw [List.flatMap_cons, List.length_append, ih, List.length_cons, hexByte, List.length_cons, List.length_singleton]
    omega

def lowercaseDigits : List Char := "0123456789abcdef".toList

theorem mem_lowercaseDigits_of_hexByte {b : UInt8} {c : Char} (member : c ∈ hexByte b) : c ∈ lowercaseDigits := by
  have digits : ∀ n : Fin 16, Nat.digitChar n ∈ lowercaseDigits := by decide
  have high : b.toNat / 16 < 16 := by have := b.toNat_lt; omega
  have low : b.toNat % 16 < 16 := by omega
  rw [hexByte, List.mem_cons, List.mem_singleton] at member
  rcases member with rfl | rfl
  · exact digits ⟨_, high⟩
  · exact digits ⟨_, low⟩

namespace Checksums

open FileTree (usable)

/-- Whether a text is spelled as a digest is: in 64 lowercase hexadecimal digits. -/
def isDigest (digest : String) : Bool :=
  digest.length = 64 && digest.toList.all (· ∈ lowercaseDigits)

theorem isDigest_hex (content : Bytes) : isDigest (hex (Sha256.digest content)) := by
  have length : (hex (Sha256.digest content)).length = 64 := by rw [length_hex, Sha256.length_digest]
  have letters : ∀ c ∈ (hex (Sha256.digest content)).toList, c ∈ lowercaseDigits := by
    intro c member
    rw [hex, String.toList_ofList] at member
    obtain ⟨b, -, member⟩ := List.mem_flatMap.mp member
    exact mem_lowercaseDigits_of_hexByte member
  simpa [isDigest, length] using letters

variable {w u v : Workspace} {dir : Path} {l : Location} {names : List String} {s : String}

theorem exists_read_of_isFile {p : Path} (file : w.isFile p) : ∃ content, w.read p = .ok content := by
  rw [Workspace.isFile, Workspace.entry?] at file
  rcases found : w.find p with fault | ⟨k, e⟩
  · simp [found] at file
  · simp only [found, Option.any_some] at file
    obtain ⟨content, holds⟩ := e.exists_content file
    exact ⟨content, by simp [Workspace.read, found, holds, bind, Except.bind, pure, Except.pure]⟩

theorem exists_mapM {ε α β : Type} {f : α → Except ε β} {all : List α} (each : ∀ a ∈ all, ∃ b, f a = .ok b) :
    ∃ bs, all.mapM f = .ok bs := by
  induction all with
  | nil => exact ⟨[], rfl⟩
  | cons a all ih =>
    obtain ⟨⟨b, first⟩, others⟩ := List.forall_mem_cons.mp each
    obtain ⟨bs, rest⟩ := ih others
    exact ⟨b :: bs, by simp [first, rest, bind, Except.bind, pure, Except.pure]⟩

/-- The lines of the files with some names. -/
def linesOf (w : Workspace) (dir : Path) (names : List String) : Except FileError (List String) :=
  names.mapM fun name => do pure (line (← digestOf w (dir.join name)) name)

theorem text_of_list (listed : w.list dir = .ok names) : text w dir =
    (linesOf w dir (names.filter fun name => w.isFile (dir.join name) && isListed name)).map String.join := by
  rw [text, listedNames, listed]
  simp only [Except.mapError, bind, Except.bind, pure, Except.pure, linesOf]
  split <;> simp_all [Except.map]

/-- A directory that can be listed has a manifest. -/
theorem exists_text (listed : w.list dir = .ok names) : ∃ s, text w dir = .ok s := by
  have each : ∀ name ∈ names.filter fun name => w.isFile (dir.join name) && isListed name,
      ∃ written, (do pure (line (← digestOf w (dir.join name)) name) : Except FileError String) = .ok written := by
    intro name member
    have file : w.isFile (dir.join name) := (Bool.and_eq_true_iff.mp (List.mem_filter.mp member).2).1
    obtain ⟨content, read⟩ := exists_read_of_isFile file
    exact ⟨_, by simp [digestOf, read, Except.mapError, Except.map, bind, Except.bind, pure, Except.pure]; rfl⟩
  obtain ⟨lines, made⟩ := exists_mapM each
  exact ⟨String.join lines, by rw [text_of_list listed, linesOf, made]; rfl⟩

/-- The manifest that is made where the system tells the names in a directory in some order. -/
def textOf (w : Workspace) (dir : Path) (told : List String) : Except FileError String :=
  let names := told.filter fun name => w.isFile (dir.join name) && isListed name
  (linesOf w dir (names.mergeSort fun a b => decide (Text.Utf8.encode a ≤ Text.Utf8.encode b))).map String.join

/-- The names in a directory are in the order of their bytes. -/
theorem pairwise_encode_names (t : FileTree) (l : Location) :
    (t.names l).Pairwise fun a b => Text.Utf8.encode a < Text.Utf8.encode b := by
  have different : (t.names l).Pairwise (· ≠ ·) := t.nodup_names l
  refine (List.Pairwise.and (t.pairwise_names l) different).imp fun {a b} both => ?_
  have smaller : a < b := String.not_le.mp fun larger => both.2 (String.le_antisymm both.1 larger)
  exact Text.Utf8.encode_lt smaller

theorem exists_find_of_list (listed : w.list dir = .ok names) :
    ∃ l, w.find dir = .ok (l, .directory) ∧ names = w.files.names l := by
  rw [Workspace.list] at listed
  rcases found : w.find dir with fault | ⟨l, e⟩
  · simp [found, bind, Except.bind] at listed
  · cases e with
    | directory => exact ⟨l, rfl, by simpa [found, bind, Except.bind, pure, Except.pure, eq_comm] using listed⟩
    | file | program | void | queue | link => simp [found, bind, Except.bind, throw, throwThe, MonadExceptOf.throw] at listed

/-- The order in which the system tells the names makes no difference. -/
theorem textOf_of_perm {told : List String} (listed : w.list dir = .ok names) (perm : told.Perm names) :
    textOf w dir told = text w dir := by
  have sorted : names.Pairwise fun a b => Text.Utf8.encode a < Text.Utf8.encode b := by
    obtain ⟨l, -, rfl⟩ := exists_find_of_list listed
    exact pairwise_encode_names w.files l
  let picks (name : String) : Bool := w.isFile (dir.join name) && isListed name
  let before (a b : String) : Bool := decide (Text.Utf8.encode a ≤ Text.Utf8.encode b)
  have same : (told.filter picks).mergeSort before = names.filter picks := by
    have merged : ((told.filter picks).mergeSort before).Pairwise fun a b => before a b := by
      refine List.pairwise_mergeSort (fun a b c first second => ?_) (fun a b => ?_) _
      · exact decide_eq_true (List.le_trans (of_decide_eq_true first) (of_decide_eq_true second))
      · rw [Bool.or_eq_true_iff, decide_eq_true_iff, decide_eq_true_iff]
        exact List.le_total _ _
    have told' : (names.filter picks).Pairwise fun a b => before a b :=
      (sorted.filter _).imp fun smaller => decide_eq_true (List.le_of_lt smaller)
    refine List.Perm.eq_of_pairwise ?_ merged told' ((List.mergeSort_perm _ _).trans (perm.filter _))
    intro a b _ _ first second
    exact Text.Utf8.encode_inj (List.le_antisymm (of_decide_eq_true first) (of_decide_eq_true second))
  rw [textOf, text_of_list listed]
  exact congrArg (fun names => (linesOf w dir names).map String.join) same

/-- The text has, for each regular file directly in a directory that is an archive or a package and whose path can be
used, in the order of their names, its digest and its name. -/
structure IsManifest (w : Workspace) (dir : Path) (l : Location) (s : String) : Prop where
  lines : s = String.join ((listing w dir l).map fun entry => line (hex (Sha256.digest entry.2)) entry.1)
  each : ∀ name content, (name, content) ∈ listing w dir l ↔ isListed name ∧ usable dir name = .ok () ∧
    ∃ e, w.files.get? (l ++ [name]) = some e ∧ e.isFile ∧ e.content? = some content
  order : (listing w dir l).Pairwise fun a b => Text.Utf8.encode a.1 < Text.Utf8.encode b.1
  digests : ∀ entry ∈ listing w dir l, isDigest (hex (Sha256.digest entry.2))

theorem order_listing (w : Workspace) (dir : Path) (l : Location) :
    (listing w dir l).Pairwise fun a b => Text.Utf8.encode a.1 < Text.Utf8.encode b.1 := by
  refine .filter _ (((pairwise_encode_names w.files l).filter isListed).filterMap _ fun a b smaller c held d held' => ?_)
  obtain ⟨content, -, rfl⟩ := Option.map_eq_some_iff.mp held
  obtain ⟨content', -, rfl⟩ := Option.map_eq_some_iff.mp held'
  exact smaller

/-- A directory without links that a manifest can be written in: the path of the manifest can be looked up, and in its
place stands nothing, or a regular file that is not the same as one that is listed. -/
structure Tidy (w : Workspace) (dir : Path) (l : Location) : Prop where
  linked : w.files.Linked
  home : w.files.get? w.directory = some .directory
  found : w.find dir = .ok (l, .directory)
  names : ∀ name e, w.files.get? (l ++ [name]) = some e → IsName name
  noLinks : ∀ name target, w.files.get? (l ++ [name]) ≠ some (.link target)
  manifest : ∀ e, w.files.get? (l ++ [manifestName]) = some e → e.isFile
  own : ∀ name, isListed name → l ++ [name] ∉ w.files.places (l ++ [manifestName])
  fits : usable dir manifestName = .ok ()

/-- Writing the manifest of a directory puts a text there, and changes nothing else. -/
structure Writes (w : Workspace) (dir : Path) (l : Location) (s : String) (v : Workspace) : Prop where
  done : (write dir manifestName).exec w = (.ok (dir.join manifestName), v)
  read : v.read (dir.join manifestName) = .ok (Text.Utf8.encode s)
  kept : ∀ k, k ∉ w.files.places (l ++ [manifestName]) → v.files.get? k = w.files.get? k
  artifacts : ∀ name, isListed name → v.files.get? (l ++ [name]) = w.files.get? (l ++ [name])
  directory : v.directory = w.directory
  journal : v.journal = w.journal

theorem isName_manifestName : IsName manifestName := by decide

def isRunnableManifest (w : Workspace) (l : Location) : Bool :=
  ((w.files.get? (l ++ [manifestName])).getD (.file [] false)).isRunnable

/-- The workspace with a text in the manifest of a directory. -/
def rewritten (w : Workspace) (l : Location) (s : String) : Workspace :=
  FileM.changed w (·.replace (l ++ [manifestName]) (.file (Text.Utf8.encode s) (isRunnableManifest w l)))

namespace Tidy

variable (tidy : Tidy w dir l)
include tidy

theorem leads : w.Leads dir l :=
  (Workspace.leads_of_find tidy.home tidy.found).1

theorem orderly : Orderly l w :=
  fun name _ e there => ⟨tidy.names name e there, fun target link => tidy.noLinks name target (link ▸ there)⟩

theorem list_eq : w.list dir = .ok (w.files.names l) := by
  simp [Workspace.list, tidy.found, bind, Except.bind, pure, Except.pure]

theorem exists_isManifest : ∃ s, text w dir = .ok s ∧ IsManifest w dir l s := by
  obtain ⟨s, made⟩ := exists_text tidy.list_eq
  refine ⟨s, made, ?_, fun _ _ => mem_listing, order_listing w dir l, fun entry _ => isDigest_hex entry.2⟩
  rw [text_eq tidy.leads tidy.orderly made, List.map_map]
  rfl

theorem not_directory : w.files.get? (l ++ [manifestName]) ≠ some .directory := fun directory =>
  nomatch tidy.manifest _ directory

/-- What stands at the places of a manifest is no directory and no link. -/
theorem noWay_of_mem_places {k : Location} (twin : k ∈ w.files.places (l ++ [manifestName])) {e : Entry}
    (there : w.files.get? k = some e) : e.isWay = false := by
  rw [tidy.linked.alike.get?_eq twin] at there
  have file := tidy.manifest e there
  cases e <;> first | rfl | cases file

/-- What was written is found at all places of the manifest, and everything else as it was. -/
theorem get?_rewritten (k : Location) : (rewritten w l s).files.get? k =
    if k ∈ w.files.places (l ++ [manifestName]) then some (.file (Text.Utf8.encode s) (isRunnableManifest w l))
    else w.files.get? k :=
  tidy.linked.alike.get?_replace tidy.not_directory k

theorem get?_rewritten_manifest : (rewritten w l s).files.get? (l ++ [manifestName]) =
    some (.file (Text.Utf8.encode s) (isRunnableManifest w l)) := by
  rw [tidy.get?_rewritten, if_pos (w.files.mem_places _)]

theorem get?_rewritten_listed {name : String} (listed : isListed name) :
    (rewritten w l s).files.get? (l ++ [name]) = w.files.get? (l ++ [name]) := by
  rw [tidy.get?_rewritten, if_neg (tidy.own name listed)]

theorem sameWays : w.files.SameWays (rewritten w l s).files := by
  constructor
  · intro k e way there
    have away : k ∉ w.files.places (l ++ [manifestName]) := fun twin => by
      simp [tidy.noWay_of_mem_places twin there] at way
    rw [tidy.get?_rewritten, if_neg away, there]
  · intro k e way there
    rw [tidy.get?_rewritten] at there
    split at there
    · obtain rfl := Option.some_inj.mp there
      cases way
    · exact there

theorem tidy_rewritten : Tidy (rewritten w l s) dir l where
  linked := tidy.linked.replace tidy.not_directory
  home := tidy.sameWays.directory.mp tidy.home
  found := by
    have leads : (rewritten w l s).Leads dir l := FileTree.Leads.keeps tidy.leads tidy.sameWays.1
    exact Workspace.find_of_leads leads (Workspace.leads_of_find tidy.home tidy.found).2
  names name e there := by
    rw [tidy.get?_rewritten] at there
    split at there
    · next twin =>
      by_cases same : name = manifestName
      · exact same ▸ isName_manifestName
      · cases before : w.files.get? (l ++ [name]) with
        | some d => exact tidy.names name d before
        | none =>
          -- A place of the manifest other than its own has something at it already.
          have present := tidy.linked.isSome_of_mem_places twin (by simpa using same)
          simp [before] at present
    · exact tidy.names name e there
  noLinks name target link := tidy.noLinks name target (tidy.sameWays.link.mpr link)
  manifest e there := by
    rw [tidy.get?_rewritten_manifest] at there
    obtain rfl := Option.some_inj.mp there
    rfl
  own name listed := by
    rw [FileTree.places, show (rewritten w l s).files.groups = w.files.groups from FileTree.groups_replace _ _ _]
    exact tidy.own name listed
  fits := tidy.fits

theorem exec_write (made : text w dir = .ok s) :
    (write dir manifestName).exec w = (.ok (dir.join manifestName), rewritten w l s) := by
  have put := FileM.write_join_shared tidy.leads isName_manifestName (tidy.noLinks manifestName) (Text.Utf8.encode s)
  rw [tidy.fits] at put
  have stored : (FileM.write (dir.join manifestName) (Text.Utf8.encode s)).exec w = (.ok (), rewritten w l s) := by
    rw [put]
    cases there : w.files.get? (l ++ [manifestName]) with
    | none => simp [rewritten, isRunnableManifest, there, Entry.withContent, Entry.isRunnable]
    | some e =>
      have file := tidy.manifest e there
      cases e with
      | file | program => simp [rewritten, isRunnableManifest, there, Entry.withContent, Entry.isRunnable]
      | directory | void | queue | link => cases file
  have text : (Files.writeText (dir.join manifestName) s).exec w = (.ok (), rewritten w l s) := by
    rw [Files.writeText, TaskM.exec_bind, Files.makeParent_join tidy.leads isName_manifestName tidy.fits]
    dsimp only
    rw [TaskM.exec_describe, stored]
    rfl
  rw [write, TaskM.exec_bind, TaskM.exec_get]
  dsimp only
  rw [TaskM.exec_bind, TaskM.exec_ofExcept, made]
  dsimp only
  rw [TaskM.exec_bind, text]
  rfl

theorem writes (made : text w dir = .ok s) : Writes w dir l s (rewritten w l s) where
  done := tidy.exec_write made
  read := by
    rw [Workspace.read, Workspace.find_join_of_file tidy.tidy_rewritten.leads isName_manifestName tidy.fits
      tidy.get?_rewritten_manifest rfl]
    rfl
  kept k away := by rw [tidy.get?_rewritten, if_neg away]
  artifacts _ listed := tidy.get?_rewritten_listed listed
  directory := rfl
  journal := rfl

/-- Writing the same text again changes nothing. -/
theorem get?_rewritten_again (k : Location) :
    (rewritten (rewritten w l s) l s).files.get? k = (rewritten w l s).files.get? k := by
  have right : isRunnableManifest (rewritten w l s) l = isRunnableManifest w l := by
    rw [isRunnableManifest, tidy.get?_rewritten_manifest]
    rfl
  have places : (rewritten w l s).files.places (l ++ [manifestName]) = w.files.places (l ++ [manifestName]) := by
    rw [FileTree.places, show (rewritten w l s).files.groups = w.files.groups from FileTree.groups_replace _ _ _]
    rfl
  rw [tidy.tidy_rewritten.get?_rewritten, right, places, tidy.get?_rewritten]
  split <;> rfl

end Tidy

/-- A directory with an archive, a package and an old manifest, which is the same file as some notes. -/
def outdated : Workspace where
  files := ⟨[(["pkg"], .directory), (["pkg", "b.deb"], .file [2] false), (["pkg", "notes.txt"], .file [9] false),
    (["pkg", "a.zip"], .file [1] true), (["pkg", "SHA256SUMS"], .file [9] false)],
    [[["pkg", "SHA256SUMS"], ["pkg", "notes.txt"]]]⟩
  directory := []
  journal := []

theorem tidy_outdated : Tidy outdated ⟨"./pkg"⟩ ["pkg"] := by
  have nodes {k : Location} {e : Entry} (there : outdated.files.get? k = some e) : k = [] ∨ (k, e) ∈ outdated.files.nodes := by
    rw [FileTree.get?] at there
    split at there
    · next root => exact .inl root
    · obtain ⟨n, found, rfl⟩ := Option.map_eq_some_iff.mp there
      have place : n.1 = k := by simpa using List.find?_some found
      exact .inr (place ▸ List.mem_of_find?_eq_some found)
  have known {name : String} {e : Entry} (there : outdated.files.get? (["pkg"] ++ [name]) = some e) :
      e.isFile ∧ IsName name := by
    have member := (nodes there).resolve_left (by simp)
    simp only [outdated, List.mem_cons, List.not_mem_nil, or_false, Prod.mk.injEq, List.cons_append, List.nil_append,
      List.cons.injEq, true_and, and_true, List.cons_ne_self, false_and, false_or] at member
    obtain ⟨rfl, rfl⟩ | ⟨rfl, rfl⟩ | ⟨rfl, rfl⟩ | ⟨rfl, rfl⟩ := member <;> exact ⟨rfl, by decide⟩
  exact {
    linked := ⟨by unfold FileTree.Alike; decide, by decide, by decide⟩
    home := rfl
    found := rfl
    names := fun name e there => (known there).2
    noLinks := fun name target link => absurd (known link).1 Bool.false_ne_true
    manifest := fun e there => (known there).1
    own := fun name listed twin => by
      have other : ["pkg", name] = ["pkg", "SHA256SUMS"] ∨ ["pkg", name] = ["pkg", "notes.txt"] := by
        simpa [FileTree.places, outdated, manifestName] using twin
      obtain rfl | rfl : name = "SHA256SUMS" ∨ name = "notes.txt" := by simpa using other
      · revert listed; decide +kernel
      · revert listed; decide +kernel
    fits := rfl }

/-- A directory that a manifest is written in. -/
structure Untidy where
  manifest : Entry
  groups : List (List Location)

namespace Untidy

/-- There is an archive beside what stands in the place of the manifest. -/
def start (m : Untidy) : Workspace :=
  ⟨⟨[(["pkg"], .directory), (["pkg", "a.zip"], .file [] false), (["pkg", "SHA256SUMS"], m.manifest)], m.groups⟩, [], []⟩

/-- Whether writing the manifest of the directory twice leaves its artifacts as they are, and each time the manifest that
they call for. -/
def isKept (m : Untidy) : Bool :=
  let dir : Path := ⟨"pkg"⟩
  let before := artifacts m.start ["pkg"]
  let expected := some (String.join (before.map fun entry => line (hex (Sha256.digest entry.2)) entry.1))
  let first := (write dir manifestName).exec m.start
  let second := (write dir manifestName).exec first.2
  first.1.toBool && second.1.toBool && artifacts first.2 ["pkg"] = before && manifest? first.2 dir = expected &&
    manifest? second.2 dir = expected

end Untidy

end Checksums

end ReleaseMatrix
