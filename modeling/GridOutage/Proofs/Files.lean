import GridOutage.Files
import Mathlib.Data.List.Sort
import Mathlib.Data.String.Basic

/-!
# Files that do not change

What the loaders give in any monad when nothing changes the files while the program runs. A `Disk`
says what is at each path, and `Holds`, `Documents` and `SettingsAt` say of it, without any loader,
what a document, a directory and a settings file stand for.
-/
namespace GridOutage

open Document (Format)

/-- What is at the paths of a file system at one time. -/
structure Disk where
  kind? : String → Option FileKind
  read? : String → Option String
  names? : String → Option (List String)

namespace Disk

/-- The file system that stays so. -/
def files (t : Disk) (m : Type → Type) [Monad m] : Files m where
  kind? path := pure (t.kind? path)
  read? path := pure (t.read? path)
  names? path := pure (t.names? path)

/-- The file at a path is a document of something. -/
def Holds {α : Type} (t : Disk) (read : Format → String → Except Error α) (path : String) (a : α) :
    Prop :=
  ∃ text, t.read? path = some text ∧ read (.ofPath path) text = .ok a

/-- A name in a directory is that of a file and has the extension of a document. -/
def isDocument (t : Disk) (directory name : String) : Bool :=
  (Format.ofName? name).isSome && t.kind? (Files.child directory name) == some .file

/-- The names of the documents in a directory, in order. -/
structure Documents (t : Disk) (directory : String) (documents : List String) : Prop where
  named : ∃ names, t.names? directory = some names ∧
    documents.Perm (names.filter (t.isDocument directory))
  sorted : documents.Pairwise (· ≤ ·)

/-- The settings of a path: those of the file there, or the standard ones where there is nothing. -/
inductive SettingsAt (t : Disk) (path : String) : Settings → Prop
  | absent (h : t.kind? path = none) : SettingsAt t path .standard
  | read {kind : FileKind} {text : String} {settings : Settings} (h : t.kind? path = some kind)
      (htext : t.read? path = some text) (hsettings : Settings.ofText text = .ok settings) :
      SettingsAt t path settings

/-! ## The loaders -/

section

variable {m : Type → Type} [Monad m] [LawfulMonad m] {t : Disk} {α : Type}
  {read : Format → String → Except Error α}

theorem load_eq {path : String} {a : α} (h : t.Holds read path a) :
    (t.files m).load read path = pure (.ok a) := by
  obtain ⟨text, htext, ha⟩ := h
  simp only [Files.load, files, pure_bind, htext, ha]

theorem loadAll_eq {paths : List String} {as : List α} (h : List.Forall₂ (t.Holds read) paths as) :
    (t.files m).loadAll read paths = pure (.ok as) := by
  induction h with
  | nil => rfl
  | cons ha _ ih =>
    rw [Files.loadAll, load_eq ha, pure_bind]
    dsimp only
    rw [ih, pure_bind]
    rfl

theorem filterM_pure (p : α → Bool) (as : List α) :
    as.filterM (fun a => (pure (p a) : m Bool)) = pure (as.filter p) := by
  have hfrom (done : List α) : as.filterAuxM (fun a => (pure (p a) : m Bool)) done =
      pure ((as.filter p).reverse ++ done) := by
    induction as generalizing done with
    | nil => rfl
    | cons a as ih =>
      rw [List.filterAuxM, pure_bind, ih, List.filter_cons]
      cases p a <;> simp
  rw [List.filterM, hfrom, pure_bind, List.append_nil, List.reverse_reverse]

theorem documentNames_eq {directory : String} {documents : List String}
    (h : t.Documents directory documents) :
    (t.files m).documentNames directory = pure (.ok documents) := by
  obtain ⟨⟨names, hnames, hperm⟩, hsorted⟩ := h
  have hfilter : (names.filter fun n => (Format.ofName? n).isSome).filter
      (fun n => t.kind? (Files.child directory n) == some .file) =
        names.filter (t.isDocument directory) := by
    rw [List.filter_filter]
    exact List.filter_congr fun n _ => Bool.and_comm _ _
  have hmerged := (names.filter (t.isDocument directory)).pairwise_mergeSort' (· ≤ ·)
  have hsort : (names.filter (t.isDocument directory)).mergeSort (fun a b => a ≤ b) = documents :=
    ((List.mergeSort_perm _ _).trans hperm.symm).eq_of_pairwise' hmerged hsorted
  simp only [Files.documentNames, files, pure_bind, hnames]
  rw [filterM_pure, pure_bind, hfilter, hsort]

theorem loadDirectory_eq {directory : String} {documents : List String}
    {drafts : List OutageList.Draft} (h : t.Documents directory documents)
    (hdrafts : List.Forall₂ (t.Holds Files.listOfText) (documents.map (Files.child directory)) drafts) :
    (t.files m).loadDirectory directory = pure (.ok drafts) := by
  rw [Files.loadDirectory, documentNames_eq h, pure_bind]
  exact loadAll_eq hdrafts

theorem loadSettings_eq {path : String} {settings : Settings} (h : t.SettingsAt path settings) :
    (t.files m).loadSettings path = pure (.ok settings) := by
  cases h with
  | absent h => simp only [Files.loadSettings, files, pure_bind, h]
  | read h htext hsettings => simp only [Files.loadSettings, files, pure_bind, h, htext, hsettings]

end

end Disk

end GridOutage
