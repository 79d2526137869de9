import Mathlib.Data.List.Basic
import Mathlib.Logic.Function.Basic

/-!
# Files of a directory

The names of a directory refer to files, several names possibly to one; who has a file open reaches
it without its name. Each operation is one atomic step.

The second half is about processes that write a file each under a name of their own and then publish
it by linking it to a common name: what a process may do (`Harmless`), and what it may rely on in
return (`Undisturbed`).
-/

namespace Files

structure File where
  content : List UInt8
  mode : UInt32
  /-- Neither a directory nor a link to a path. -/
  regular : Bool
  deriving DecidableEq, Repr

/-- The names of a directory and the files there have been, by number. A name refers to one of
them. -/
structure Directory where
  entries : String → Option Nat
  files : List File
  bound : ∀ {name : String} {n : Nat}, entries name = some n → n < files.length

namespace Directory

variable {d d' : Directory} {name : String} {n : Nat}

/-- The file a name refers to. -/
def file? (d : Directory) (name : String) : Option File := (d.entries name).bind (d.files[·]?)

/-- The entries of a directory with one more file name files. -/
theorem bound_create (d : Directory) (name : String) (file : File) {other : String} {n : Nat}
    (h : Function.update d.entries name (some d.files.length) other = some n) :
    n < (d.files ++ [file]).length := by
  rw [List.length_append, List.length_singleton]
  rw [Function.update_apply] at h
  split at h
  · cases h
    exact Nat.lt_succ_self _
  · exact Nat.lt_succ_of_lt (d.bound h)

/-- Create and open an empty file under a name that is not there (`O_CREAT | O_EXCL`). -/
def createNew (d : Directory) (name : String) (mode : UInt32) : Option (Nat × Directory) :=
  if d.entries name = none then
    some (d.files.length,
      { entries := Function.update d.entries name (some d.files.length)
        files := d.files ++ [⟨[], mode, true⟩]
        bound := d.bound_create name _ })
  else none

/-- The entries of a directory whose file was written name files. -/
theorem bound_write (d : Directory) (n : Nat) (f : File → File) {name : String} {m : Nat}
    (h : d.entries name = some m) : m < (d.files.modify n f).length := by
  rw [List.length_modify]
  exact d.bound h

/-- Write bytes at an offset of a file. -/
def writeAt (d : Directory) (n offset : Nat) (bytes : List UInt8) : Directory where
  entries := d.entries
  files := d.files.modify n fun file =>
    { file with
      content := file.content.take offset ++ bytes ++ file.content.drop (offset + bytes.length) }
  bound := d.bound_write n _

/-- Read at most `count` bytes at an offset of a file. -/
def readAt (d : Directory) (n offset count : Nat) : List UInt8 :=
  (d.files[n]?.elim [] fun file => file.content.drop offset).take count

/-- The entries of a directory with one more link name files. -/
theorem bound_link (d : Directory) {name newName : String} {n : Nat} (hn : d.entries name = some n)
    {other : String} {m : Nat} (h : Function.update d.entries newName (some n) other = some m) :
    m < d.files.length := by
  rw [Function.update_apply] at h
  split at h
  · cases h
    exact d.bound hn
  · exact d.bound h

/-- Why a link is refused. -/
inductive LinkError where
  | notFound
  | alreadyExists
  deriving DecidableEq, Repr

/-- Let a new name refer to the file of another, in one step (`link`). -/
def link (d : Directory) (name newName : String) : Except LinkError Directory :=
  match h : d.entries name with
  | none => .error .notFound
  | some n =>
    if d.entries newName = none then
      .ok { d with
        entries := Function.update d.entries newName (some n)
        bound := d.bound_link h }
    else .error .alreadyExists

/-- The entries of a directory with one entry less name files. -/
theorem bound_remove (d : Directory) (name : String) {other : String} {n : Nat}
    (h : Function.update d.entries name none other = some n) : n < d.files.length := by
  rw [Function.update_apply] at h
  split at h
  · cases h
  · exact d.bound h

/-- Remove a name (`unlink`); its file stays for whoever has it open. -/
def remove (d : Directory) (name : String) : Option Directory :=
  if d.entries name = none then none
  else some { d with
    entries := Function.update d.entries name none
    bound := d.bound_remove name }

/-! ## What the operations do -/

/-- A file is created under a free name, empty and open, after all others. -/
theorem createNew_eq_some {mode : UInt32} (h : d.createNew name mode = some (n, d')) :
    d.entries name = none ∧ n = d.files.length ∧
      d'.entries = Function.update d.entries name (some n) ∧
      d'.files = d.files ++ [⟨[], mode, true⟩] := by
  unfold createNew at h
  split at h
  · next hnone =>
    cases h
    exact ⟨hnone, rfl, rfl, rfl⟩
  · cases h

/-- A link is made under a free name, to the file of the old one. -/
theorem link_eq_ok {newName : String} (h : d.link name newName = .ok d') :
    ∃ n, d.entries name = some n ∧ d.entries newName = none ∧
      d'.entries = Function.update d.entries newName (some n) ∧ d'.files = d.files := by
  unfold link at h
  split at h
  · cases h
  · next n hn =>
    split at h
    · next hnone =>
      cases h
      exact ⟨n, hn, hnone, rfl, rfl⟩
    · cases h

/-- A removal takes the entry and leaves the files. -/
theorem remove_eq_some (h : d.remove name = some d') :
    d'.entries = Function.update d.entries name none ∧ d'.files = d.files := by
  unfold remove at h
  split at h
  · cases h
  · cases h
    exact ⟨rfl, rfl⟩

@[simp] theorem writeAt_entries {offset : Nat} {bytes : List UInt8} :
    (d.writeAt n offset bytes).entries = d.entries := rfl

/-- A write leaves the other files alone. -/
theorem writeAt_files_of_ne {offset m : Nat} {bytes : List UInt8} (h : n ≠ m) :
    (d.writeAt n offset bytes).files[m]? = d.files[m]? := by
  exact List.getElem?_modify_ne _ _ h

/-- A write at the end of a file appends. -/
theorem writeAt_end {file : File} (hfile : d.files[n]? = some file) {bytes : List UInt8} :
    (d.writeAt n file.content.length bytes).files[n]? =
      some { file with content := file.content ++ bytes } := by
  simp [writeAt, List.getElem?_modify_eq, hfile]

end Directory

/-! ## Publishing by a link -/

section
variable (shared own : String)

/-- A step that touches no name but the own and the shared one, which keeps its file; of the files
that other names refer to, none changes and none gets a further name. -/
structure Harmless (d d' : Directory) : Prop where
  kept : ∀ {n}, d.entries shared = some n → d'.entries shared = some n
  names : ∀ {name}, name ≠ own → name ≠ shared → d'.entries name = d.entries name
  files : ∀ {name n}, name ≠ own → d.entries name = some n → d'.files[n]? = d.files[n]? ∧
    ∀ other, d'.entries other = some n → d.entries other = some n

/-- The interference of others: the shared name and the own one keep their files, these do not
change, and the own file gets no further name. -/
structure Undisturbed (d d' : Directory) : Prop where
  shared_kept : ∀ {n}, d.entries shared = some n →
    d'.entries shared = some n ∧ d'.files[n]? = d.files[n]?
  own_kept : ∀ {n}, d.entries own = some n → d'.entries own = some n ∧
    d'.files[n]? = d.files[n]? ∧ ∀ other, d'.entries other = some n → d.entries other = some n

end

section
variable {shared own : String} {d d' d'' : Directory} {n : Nat}

/-- Doing nothing is harmless. -/
theorem Harmless.refl : Harmless shared own d d where
  kept := id
  names := fun _ _ => rfl
  files := fun _ _ => ⟨rfl, fun _ => id⟩

/-- A directory that stays as it is is undisturbed. -/
theorem Undisturbed.refl : Undisturbed shared own d d where
  shared_kept := fun h => ⟨h, rfl⟩
  own_kept := fun h => ⟨h, rfl, fun _ => id⟩

/-- What is undisturbed twice is undisturbed. -/
theorem Undisturbed.trans (h : Undisturbed shared own d d') (h' : Undisturbed shared own d' d'') :
    Undisturbed shared own d d'' where
  shared_kept := by
    intro n hn
    obtain ⟨hn', hfile⟩ := h.shared_kept hn
    obtain ⟨hn'', hfile'⟩ := h'.shared_kept hn'
    exact ⟨hn'', hfile'.trans hfile⟩
  own_kept := by
    intro n hn
    obtain ⟨hn', hfile, hnames⟩ := h.own_kept hn
    obtain ⟨hn'', hfile', hnames'⟩ := h'.own_kept hn'
    exact ⟨hn'', hfile'.trans hfile, fun other ho => hnames other (hnames' other ho)⟩

/-- What one process does without harm does not disturb another, which has another name. -/
theorem Harmless.undisturbed {own' : String} (h : Harmless shared own d d') (hne : own' ≠ own)
    (hshared : shared ≠ own) (hshared' : own' ≠ shared) : Undisturbed shared own' d d' where
  shared_kept := fun hn => ⟨h.kept hn, (h.files hshared hn).1⟩
  own_kept := by
    intro n hn
    obtain ⟨hfile, hnames⟩ := h.files hne hn
    exact ⟨(h.names hne hshared').trans hn, hfile, hnames⟩

/-- A name is the only one of its file. -/
def Sole (d : Directory) (name : String) (n : Nat) : Prop :=
  d.entries name = some n ∧ ∀ other, d.entries other = some n → other = name

/-- The own file stays the own file, as it is. -/
theorem Sole.undisturbed (h : Sole d own n) (hd : Undisturbed shared own d d') :
    Sole d' own n ∧ d'.files[n]? = d.files[n]? := by
  obtain ⟨hn, hfile, hnames⟩ := hd.own_kept h.1
  exact ⟨⟨hn, fun other ho => h.2 other (hnames other ho)⟩, hfile⟩

/-- A file created under the own name is its file alone. -/
theorem createNew_harmless {mode : UInt32} (hne : shared ≠ own)
    (h : d.createNew own mode = some (n, d')) :
    Harmless shared own d d' ∧ d'.entries shared = d.entries shared ∧ Sole d' own n ∧
      d'.files[n]? = some ⟨[], mode, true⟩ := by
  obtain ⟨-, rfl, hentries, hfiles⟩ := Directory.createNew_eq_some h
  have hother : ∀ {name}, name ≠ own → d'.entries name = d.entries name := by
    intro name hname
    rw [hentries, Function.update_of_ne hname]
  have hown : d'.entries own = some d.files.length := by
    rw [hentries, Function.update_self]
  have hfresh : ∀ {name}, d.entries name ≠ some d.files.length :=
    fun h => Nat.lt_irrefl _ (d.bound h)
  refine ⟨⟨fun hn => (hother hne).trans hn, fun hname _ => hother hname, fun hname hn => ?_⟩,
    hother hne, ⟨hown, fun other ho => ?_⟩, by simp [hfiles]⟩
  · refine ⟨by rw [hfiles, List.getElem?_append_left (d.bound hn)], fun other ho => ?_⟩
    by_cases hownName : other = own
    · subst hownName
      rw [hown] at ho
      cases ho
      exact absurd hn hfresh
    · rwa [hother hownName] at ho
  · by_contra hownName
    rw [hother hownName] at ho
    exact hfresh ho

/-- A write to the own file. -/
theorem writeAt_harmless (hs : Sole d own n) (offset : Nat) (bytes : List UInt8) :
    Harmless shared own d (d.writeAt n offset bytes) ∧ Sole (d.writeAt n offset bytes) own n := by
  refine ⟨⟨id, fun _ _ => rfl, fun hname hn => ⟨Directory.writeAt_files_of_ne ?_, fun _ => id⟩⟩, hs⟩
  rintro rfl
  exact hname (hs.2 _ hn)

/-- The link of the own file to the shared name. -/
theorem link_harmless (hs : Sole d own n) (h : d.link own shared = .ok d') :
    Harmless shared own d d' ∧ d'.entries shared = some n ∧ d'.files = d.files := by
  obtain ⟨m, hm, hnone, hentries, hfiles⟩ := Directory.link_eq_ok h
  obtain rfl : n = m := Option.some.inj (hs.1.symm.trans hm)
  have hother : ∀ {name}, name ≠ shared → d'.entries name = d.entries name := by
    intro name hname
    rw [hentries, Function.update_of_ne hname]
  have hshared : d'.entries shared = some n := by
    rw [hentries, Function.update_self]
  refine ⟨⟨fun hn => ?_, fun _ hname => hother hname, fun hname hn => ?_⟩, hshared, hfiles⟩
  · rw [hnone] at hn
    cases hn
  · refine ⟨by rw [hfiles], fun other ho => ?_⟩
    by_cases hsharedName : other = shared
    · subst hsharedName
      rw [hshared] at ho
      cases ho
      exact absurd (hs.2 _ hn) hname
    · rwa [hother hsharedName] at ho

/-- The removal of the own name. -/
theorem remove_harmless (hne : shared ≠ own) (h : d.remove own = some d') :
    Harmless shared own d d' ∧ d'.entries shared = d.entries shared := by
  obtain ⟨hentries, hfiles⟩ := Directory.remove_eq_some h
  have hother : ∀ {name}, name ≠ own → d'.entries name = d.entries name := by
    intro name hname
    rw [hentries, Function.update_of_ne hname]
  refine ⟨⟨fun hn => (hother hne).trans hn, fun hname _ => hother hname, fun hname hn => ?_⟩,
    hother hne⟩
  refine ⟨by rw [hfiles], fun other ho => ?_⟩
  by_cases hownName : other = own
  · subst hownName
    rw [hentries, Function.update_self] at ho
    cases ho
  · rwa [hother hownName] at ho

end

end Files
