import ReleaseMatrix.Proofs.Manifest
import ReleaseMatrix.Proofs.Sweeping

namespace ReleaseMatrix

namespace Workspace

variable {w : Workspace} {p q : Path} {l k : Location} {e : Entry}

theorem locate_of_find (found : w.find p = .ok (l, e)) : w.locate p .target = .ok l ∧ w.files.get? l = some e := by
  rw [find] at found
  cases located : w.locate p .target with
  | error fault => simp [located, bind, Except.bind] at found
  | ok k =>
    simp only [located, bind, Except.bind] at found
    split at found
    · next d there =>
      obtain ⟨rfl, rfl⟩ : k = l ∧ d = e := by simpa [pure, Except.pure] using found
      exact ⟨rfl, there⟩
    · cases found

/-- A path under which a directory is found leads there. -/
theorem leads_of_find (home : w.files.get? w.directory = some .directory) (found : w.find p = .ok (l, .directory)) :
    w.Leads p l ∧ FileTree.checkPath p = .ok () := by
  obtain ⟨located, directory⟩ := locate_of_find found
  have start := w.start_directory home p
  have there : (w.files.get? (p.start w.directory)).isSome := by simp [start]
  have walked := located
  rw [locate, FileTree.locate, FileTree.enter_of_some there] at walked
  cases checked : FileTree.checkPath p with
  | error fault => simp [checked, bind, Except.bind] at walked
  | ok _ =>
    simp only [checked, bind, Except.bind, start, Option.isNone_some, Bool.and_false, Bool.false_and, Bool.false_eq_true,
      if_false] at walked
    refine ⟨?_, rfl⟩
    by_cases slash : p.endsInSlash
    · rw [Path.lookupSteps, if_pos slash] at walked
      obtain ⟨m, before, above⟩ := FileTree.exists_walk_of_append walked
      have leads : w.Leads p m := ⟨start, before, above⟩
      rw [locate, leads.locate, checked] at located
      obtain rfl : m = l := Except.ok.inj located
      exact leads
    · rw [Path.lookupSteps, if_neg slash, List.append_nil] at walked
      exact ⟨start, walked, directory⟩

theorem pathOf_inj (proper : l.IsProper) (proper' : k.IsProper) : pathOf l = pathOf k ↔ l = k := by
  refine ⟨fun same => ?_, fun same => same ▸ rfl⟩
  rw [← steps_pathOf proper, same, steps_pathOf proper']

theorem find_of_leads (leads : w.Leads p l) (fits : FileTree.checkPath p = .ok ()) : w.find p = .ok (l, .directory) := by
  rw [find, locate, leads.locate, fits]
  simp [Except.map, bind, Except.bind, leads.directory, pure, Except.pure]

end Workspace

namespace Collection

open FileTree (Swept)
open Packaging (Loose looseIn mem_looseIn looseNames_of_leads)

variable {source dest : Path} {proj out : Location} {w u : Workspace} {taken moved names : List String} {name : String}

/-- Two directories are the same just if they have the same place. -/
theorem isSameDirectory_iff {d e : Entry} (found : w.find source = .ok (proj, d)) (found' : w.find dest = .ok (out, e))
    (proper : proj.IsProper) (proper' : out.IsProper) : isSameDirectory w source dest = true ↔ proj = out := by
  simp only [isSameDirectory, Workspace.canonical, found, found', bind, Except.bind, pure, Except.pure, decide_eq_true_iff]
  exact Workspace.pathOf_inj proper proper'

theorem looseIn_pairwise (w : Workspace) (l : Location) : (looseIn w l).Pairwise (· < ·) := by
  have sorted := (FileTree.pairwise_names w.files l).and (FileTree.nodup_names w.files l)
  exact (sorted.imp fun ⟨le, ne⟩ => String.not_le.mp fun ge => ne (String.le_antisymm le ge)).filter _

/-- Collecting from one directory into another one takes the loose packages one by one. -/
theorem exec_run_of_ne (leads : w.Leads source proj) (fits : FileTree.checkPath source = .ok ())
    (found' : w.find dest = .ok (out, .directory)) (proper : proj.IsProper) (proper' : out.IsProper) (apart : proj ≠ out) :
    (run source dest).exec w = (moveAll source dest (looseIn w proj)).exec w := by
  have found := Workspace.find_of_leads leads fits
  have different : ¬ isSameDirectory w source dest = true := by rwa [isSameDirectory_iff found found' proper proper']
  rw [run, TaskM.exec_bind, TaskM.exec_get]
  dsimp only
  rw [if_neg different, TaskM.exec_bind, TaskM.exec_describe, FileM.exec_look, looseNames_of_leads leads, fits]
  rfl

/-- Files that have the other place already are taken without a change, if they can be. -/
theorem exec_moveAll_shared (sweeping : Sweeping source dest proj out w moved u) (sound : w.files.Sound)
    (each : ∀ name ∈ names, IsName name ∧ (∃ e, w.files.get? (proj ++ [name]) = some e ∧ e.isFile) ∧ name ∉ moved ∧
      out ++ [name] ∈ w.files.places (proj ++ [name])) :
    ∃ outcome, (moveAll source dest names).exec u = (outcome, u) ∧
      ∀ paths, outcome = .ok paths → paths = names.map dest.join := by
  induction names with
  | nil => exact ⟨.ok [], rfl, fun paths ok => (Except.ok.inj ok).symm⟩
  | cons name names ih =>
    obtain ⟨⟨valid, loose, new, twin⟩, eachLater⟩ := List.forall_mem_cons.mp each
    obtain ⟨error, stopped⟩ | ⟨passed, -⟩ | ⟨-, single, -⟩ := sweeping.step sound valid loose new
    · exact ⟨.error error, exec_moveAll_of_error stopped, fun paths ok => nomatch ok⟩
    · obtain ⟨outcome, unmoved, told⟩ := ih eachLater
      refine ⟨outcome.map (dest.join name :: ·), by rw [exec_moveAll_of_ok passed, unmoved], fun paths ok => ?_⟩
      cases outcome with
      | error error => cases ok
      | ok rest =>
        rw [List.map_cons, ← told rest rfl]
        exact (Except.ok.inj ok).symm
    · exact absurd twin single

namespace Sweeping

variable (sweeping : Sweeping source dest proj out w moved u)
include sweeping

/-- Where no link is at the destination of a moved file, the ways of the tree are as they were. -/
theorem keeps (noLinks : ∀ name ∈ moved, ∀ target, w.files.get? (out ++ [name]) ≠ some (.link target)) :
    w.files.Keeps u.files := fun k e way found => by
  rw [sweeping.swept.stays k fun name member => ⟨?_, ?_⟩, found]
  · rintro rfl
    simp [Entry.not_isWay_of_isFile (sweeping.swept.isFile_source member found)] at way
  · rintro rfl
    cases e with
    | directory => exact sweeping.swept.free name member found
    | link target => exact noLinks name member target found
    | _ => cases way

theorem leads (keeps : w.files.Keeps u.files) : u.Leads source proj ∧ u.Leads dest out :=
  ⟨sweeping.leadsSource.keeps keeps, sweeping.leadsDest.keeps keeps⟩

/-- What lies loose after a sweep has been there before and was not moved. -/
theorem loose_iff : Loose proj u name ↔ Loose proj w name ∧ name ∉ moved := by
  constructor
  · rintro ⟨package, e, there, file⟩
    have new : name ∉ moved := fun member => by
      rw [sweeping.swept.gone name member] at there
      cases there
    exact ⟨⟨package, e, (sweeping.swept.source new).symm.trans there, file⟩, new⟩
  · rintro ⟨⟨package, e, there, file⟩, new⟩
    exact ⟨package, e, (sweeping.swept.source new).trans there, file⟩

/-- Each loose package is in its new place, or stands where it stood, and then the other place is as it was. -/
theorem either (apart : proj ≠ out) (name : String) : if name ∈ moved
    then u.files.get? (proj ++ [name]) = none ∧ u.files.get? (out ++ [name]) = w.files.get? (proj ++ [name])
    else u.files.get? (proj ++ [name]) = w.files.get? (proj ++ [name]) ∧
      u.files.get? (out ++ [name]) = w.files.get? (out ++ [name]) := by
  split
  · next member =>
    obtain ⟨e, before, -, after⟩ := sweeping.swept.files name member
    exact ⟨sweeping.swept.gone name member, after.trans before.symm⟩
  · next new =>
    refine ⟨sweeping.swept.source new, sweeping.swept.stays _ fun other member => ⟨fun same => ?_, fun same => ?_⟩⟩
    · exact apart (List.append_inj' same rfl).1.symm
    · obtain rfl : name = other := by simpa using same
      exact new member

end Sweeping

/-- Collecting packages again changes nothing. There is nothing to tell of then but the files that had their other place
already. -/
theorem Sweeping.again (sweeping : Sweeping source dest proj out w (unshared w proj out (looseIn w proj)) u)
    (wellFormed : w.files.WellFormed) (fits : FileTree.checkPath source = .ok ()) (fits' : FileTree.checkPath dest = .ok ())
    (apart : proj ≠ out) (leads : u.Leads source proj) (leads' : u.Leads dest out) :
    ((run source dest).exec u).2 = u ∧
      (((run source dest).exec u).1 = .ok [] ↔ unshared w proj out (looseIn w proj) = looseIn w proj) := by
  have ran := exec_run_of_ne leads fits (Workspace.find_of_leads leads' fits')
    (wellFormed.proper _ _ sweeping.leadsSource.directory) (wellFormed.proper _ _ sweeping.leadsDest.directory) apart
  have left (name : String) (member : name ∈ looseIn u proj) :
      Loose proj w name ∧ name ∉ unshared w proj out (looseIn w proj) :=
    sweeping.loose_iff.mp (mem_looseIn.mp member)
  have twins (name : String) (member : name ∈ looseIn u proj) :
      IsName name ∧ (∃ e, w.files.get? (proj ++ [name]) = some e ∧ e.isFile) ∧
        name ∉ unshared w proj out (looseIn w proj) ∧ out ++ [name] ∈ w.files.places (proj ++ [name]) := by
    obtain ⟨loose, new⟩ := left name member
    obtain ⟨-, e, there, file⟩ := id loose
    refine ⟨(wellFormed.proper _ e there name (by simp)).1, ⟨e, there, file⟩, new, ?_⟩
    simpa [mem_unshared, mem_looseIn.mpr loose] using new
  obtain ⟨outcome, unmoved, told⟩ := exec_moveAll_shared sweeping wellFormed.sound twins
  rw [ran, unmoved]
  refine ⟨rfl, fun none => ?_, fun all => ?_⟩
  · have empty : looseIn u proj = [] := by simpa using (told [] none).symm
    refine List.filter_eq_self.mpr fun name member => ?_
    by_contra shared
    have stays : name ∈ looseIn u proj := mem_looseIn.mpr <| sweeping.loose_iff.mpr
      ⟨mem_looseIn.mp member, fun moved => shared (List.mem_filter.mp moved).2⟩
    simp [empty] at stays
  · have empty : looseIn u proj = [] := List.eq_nil_iff_forall_not_mem.mpr fun name member => by
      obtain ⟨loose, new⟩ := left name member
      exact new (by rwa [all, mem_looseIn])
    rw [empty] at unmoved
    exact (congrArg Prod.fst unmoved).symm

/-- Two packages lie loose, and there is an older file for one of them in the output directory. -/
def outdated : Workspace where
  files := ⟨[(["p"], .directory), (["p", "a.deb"], .file [1] false), (["p", "b.rpm"], .file [2] true),
    (["p", "pkg"], .directory), (["p", "pkg", "b.rpm"], .file [9] false)], []⟩
  directory := ["p"]
  journal := []

/-- A package lies in a directory that is reached through a link, which has the name of the package. -/
def linked : Workspace where
  files := ⟨[(["src"], .directory), (["src", "a.deb"], .file [1] false), (["pkg"], .directory),
    (["pkg", "a.deb"], .link ⟨"../src"⟩)], []⟩
  directory := []
  journal := []

end Collection

end ReleaseMatrix
