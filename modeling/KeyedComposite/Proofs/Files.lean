import Mathlib
import KeyedComposite.Host.Volume
import KeyedComposite.Proofs.Except
import KeyedComposite.Proofs.LockPath

/-! # What the workspace operations change

Each operation on a workspace changes its volume at one absolute path at most, and never
its working directory or the locks other runs hold. Making directories adds directories
only, so every file afterwards was there before with the same text (`Keeps`); removing an
entry keeps every other. Opening a lock file may create it empty; writing a file puts its
text at the path's absolute form, which is never the root, since the root is a directory.
After a removal no file is found at the removed path.
-/
namespace KeyedComposite.Host

namespace Volume

theorem lookup_filter_ne {l : List (String × Entry)} {p q : String} (h : q ≠ p) :
    (l.filter (·.1 != p)).lookup q = l.lookup q := by
  induction l with
  | nil => rfl
  | cons x rest ih =>
    obtain ⟨k, e⟩ := x
    by_cases hk : k = p
    · subst hk
      simp [List.lookup, ih, beq_false_of_ne h]
    · simp [hk, List.lookup, ih]

theorem lookup_filter_self (l : List (String × Entry)) (p : String) :
    (l.filter (·.1 != p)).lookup p = none := by
  induction l with
  | nil => rfl
  | cons x rest ih =>
    obtain ⟨k, e⟩ := x
    by_cases hk : k = p
    · simp [hk, ih]
    · simp [hk, List.lookup, ih, beq_false_of_ne (Ne.symm hk)]

@[simp] theorem get?_root (v : Volume) : v.get? "/" = some .directory := by simp [get?]

theorem get?_put_ne (v : Volume) {p q : String} (e : Entry) (h : q ≠ p) :
    (v.put p e).get? q = v.get? q := by
  unfold get? put
  split
  · rfl
  · simp [List.lookup, beq_false_of_ne h, lookup_filter_ne h]

theorem get?_erase_ne (v : Volume) {p q : String} (h : q ≠ p) :
    (v.erase p).get? q = v.get? q := by
  unfold get? erase
  split
  · rfl
  · exact lookup_filter_ne h

theorem get?_erase_self (v : Volume) (p : String) :
    (v.erase p).get? p = none ∨ (v.erase p).get? p = some .directory := by
  unfold get? erase
  split
  · exact .inr rfl
  · exact .inl (lookup_filter_self _ _)

theorem resolve_erase_self_ne_file (v : Volume) (a c : String) :
    (v.erase a).resolve a ≠ .ok (.file c) := by
  intro h
  unfold resolve at h
  dsimp only at h
  split at h
  · cases h
  · rcases get?_erase_self v a with hnone | hdir
    · rw [hnone] at h
      cases h
    · rw [hdir] at h
      cases h

end Volume

namespace Workspace

theorem absolute_congr {w w' : Workspace} (h : w'.cwd = w.cwd) (p : String) :
    w'.absolute p = w.absolute p := by
  simp [absolute, h]

theorem absolute_lock_ne (w : Workspace) (p : String) :
    w.absolute (p ++ ".lock") ≠ w.absolute p :=
  PathName.abs_append_ne (by decide) (by decide) w.cwd p

theorem resolve_root (v : Volume) : v.resolve "/" = .ok .directory := by
  have hancestors : Volume.ancestors "/" = [] := by decide
  simp [Volume.resolve, hancestors]

theorem locate_of_absolute_eq_root {w : Workspace} {p : String} (hp : p ≠ "")
    (h : w.absolute p = "/") : w.locate p = .ok .directory := by
  simp [locate, hp, h, resolve_root]

end Workspace

/-- `w'` keeps the working directory and the held locks of `w`, and every file of `w'` is a
file of `w` with the same text: at most directories were made and entries removed. -/
structure Keeps (w w' : Workspace) : Prop where
  cwd : w'.cwd = w.cwd
  held : w'.held = w.held
  files : ∀ p c, w'.volume.get? p = some (.file c) → w.volume.get? p = some (.file c)

namespace Keeps

@[refl] theorem refl (w : Workspace) : Keeps w w := ⟨rfl, rfl, fun _ _ h => h⟩

theorem trans {w₁ w₂ w₃ : Workspace} (h₁ : Keeps w₁ w₂) (h₂ : Keeps w₂ w₃) :
    Keeps w₁ w₃ :=
  ⟨h₂.cwd.trans h₁.cwd, h₂.held.trans h₁.held,
    fun p c h => h₁.files p c (h₂.files p c h)⟩

theorem put_directory (w : Workspace) (a : String) :
    Keeps w { w with volume := w.volume.put a .directory } := by
  refine ⟨rfl, rfl, fun p c h => ?_⟩
  by_cases hp : p = a
  · subst hp
    by_cases hroot : p = "/"
    · simp [hroot] at h
    · simp [Volume.get?_put _ _ _ hroot] at h
  · rwa [Volume.get?_put_ne _ _ hp] at h

/-- Removing a path from a workspace that differs from `w` at that path at most keeps the
files of `w`: whatever stood at the path is gone. -/
theorem remove_of_frame {w w' : Workspace} {p : String} (hcwd : w'.cwd = w.cwd)
    (hheld : w'.held = w.held)
    (hrest : ∀ q, q ≠ w.absolute p → w'.volume.get? q = w.volume.get? q) :
    Keeps w (w'.remove p) := by
  have habs : w'.absolute p = w.absolute p := Workspace.absolute_congr hcwd p
  refine ⟨hcwd, hheld, fun q c h => ?_⟩
  by_cases hq : q = w.absolute p
  · subst hq
    rw [← habs] at h
    rcases Volume.get?_erase_self w'.volume (w'.absolute p) with hnone | hdir
    · simp [Workspace.remove, hnone] at h
    · simp [Workspace.remove, hdir] at h
  · have hq' : q ≠ w'.absolute p := by rwa [habs]
    rwa [Workspace.remove, Volume.get?_erase_ne _ hq', hrest q hq] at h

theorem remove (w : Workspace) (p : String) : Keeps w (w.remove p) :=
  remove_of_frame rfl rfl fun _ _ => rfl

end Keeps

namespace Workspace

variable {w w' : Workspace} {p : String}

theorem mkdir_keeps (h : w.mkdir p = .ok w') : Keeps w w' := by
  unfold mkdir at h
  dsimp only at h
  split at h
  · cases h
    exact Keeps.refl w
  · cases h
  · split at h
    · cases h
    · split at h
      · cases h
        exact Keeps.put_directory w _
      · cases h
      · cases h
  · cases h

theorem mkdirAllWith_keeps : ∀ {fuel : Nat} {w w' : Workspace} {p : String},
    mkdirAllWith fuel w p = .ok w' → Keeps w w'
  | 0, w, _, _, h => by
    cases h
    exact Keeps.refl w
  | fuel + 1, w, _, p, h => by
    unfold mkdirAllWith at h
    split at h
    · cases h
      exact Keeps.refl w
    · cases h
    · dsimp only at h
      split at h
      · obtain ⟨w₁, hparent, hdir⟩ := except_bind_eq_ok.mp h
        exact (mkdirAllWith_keeps hparent).trans (mkdir_keeps hdir)
      · exact mkdir_keeps h

theorem mkdirAll_keeps (h : w.mkdirAll p = .ok w') : Keeps w w' := mkdirAllWith_keeps h

/-- Opening a file changes at most the entry at its absolute path, which is not the root,
into an empty file. -/
theorem openFile_eq_ok {truncate : Bool} (h : w.openFile p truncate = .ok w') :
    w.absolute p ≠ "/" ∧
      (w' = w ∨ w' = { w with volume := w.volume.put (w.absolute p) (.file "") }) := by
  have hp : p ≠ "" := by
    rintro rfl
    simp [openFile, locate] at h
  refine ⟨fun hroot => ?_, ?_⟩
  · simp [openFile, locate_of_absolute_eq_root hp hroot] at h
  · unfold openFile at h
    dsimp only at h
    split at h
    · cases h
    · cases h
      split
      · exact .inr rfl
      · exact .inl rfl
    · split at h
      · cases h
      · split at h
        · cases h
          exact .inr rfl
        · cases h
        · cases h
    · cases h

theorem openFile_frame {truncate : Bool} (h : w.openFile p truncate = .ok w') :
    w'.cwd = w.cwd ∧ w'.held = w.held ∧
      ∀ q, q ≠ w.absolute p → w'.volume.get? q = w.volume.get? q := by
  rcases (openFile_eq_ok h).2 with rfl | rfl
  · exact ⟨rfl, rfl, fun _ _ => rfl⟩
  · exact ⟨rfl, rfl, fun q hq => Volume.get?_put_ne _ _ hq⟩

theorem writeFile_eq_ok {c : String} (h : w.writeFile p c = .ok w') :
    w'.cwd = w.cwd ∧ w'.held = w.held ∧ w'.volume.get? (w.absolute p) = some (.file c) ∧
      ∀ q, q ≠ w.absolute p → w'.volume.get? q = w.volume.get? q := by
  obtain ⟨w₁, hopen, hw'⟩ := except_bind_eq_ok.mp h
  cases except_pure_eq_ok.mp hw'
  obtain ⟨hroot, -⟩ := openFile_eq_ok hopen
  obtain ⟨hcwd, hheld, hrest⟩ := openFile_frame hopen
  have habs : w₁.absolute p = w.absolute p := absolute_congr hcwd p
  refine ⟨hcwd, hheld, ?_, fun q hq => ?_⟩
  · rw [habs, Volume.get?_put _ _ _ hroot]
  · rw [habs, Volume.get?_put_ne _ _ hq, hrest q hq]

theorem tryLock_eq_none (h : w.tryLock p = .ok none) : w.absolute p ∈ w.held := by
  obtain ⟨w₁, hopen, hnone⟩ := except_bind_eq_ok.mp h
  obtain ⟨hcwd, hheld, -⟩ := openFile_frame hopen
  have hlock := except_pure_eq_ok.mp hnone
  rw [absolute_congr hcwd, hheld] at hlock
  by_contra hfree
  simp [hfree] at hlock

theorem tryLock_eq_some (h : w.tryLock p = .ok (some w')) :
    w'.cwd = w.cwd ∧ w'.held = w.held ∧
      ∀ q, q ≠ w.absolute p → w'.volume.get? q = w.volume.get? q := by
  obtain ⟨w₁, hopen, hsome⟩ := except_bind_eq_ok.mp h
  have hw' : w₁ = w' := by
    have := except_pure_eq_ok.mp hsome
    split at this
    · cases this
    · exact Option.some.inj this
  subst hw'
  exact openFile_frame hopen

theorem tryLock_eq_some_free (h : w.tryLock p = .ok (some w')) : w.absolute p ∉ w.held := by
  obtain ⟨w₁, hopen, hsome⟩ := except_bind_eq_ok.mp h
  obtain ⟨hcwd, hheld, -⟩ := openFile_frame hopen
  have hlock := except_pure_eq_ok.mp hsome
  rw [absolute_congr hcwd, hheld] at hlock
  intro hother
  simp [hother] at hlock

theorem fileText?_remove_self (w : Workspace) (p : String) : (w.remove p).fileText? p = none := by
  unfold fileText? readFile
  split
  · rfl
  · rfl
  · rename_i c hc
    unfold locate at hc
    split at hc
    · cases hc
    · exact absurd hc (Volume.resolve_erase_self_ne_file w.volume (w.absolute p) c)

end Workspace

end KeyedComposite.Host
