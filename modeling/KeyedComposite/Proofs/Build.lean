import KeyedComposite.Proofs.Assemble
import KeyedComposite.Proofs.Repack

/-! # Building the keyed composite

`Builder.build` fails on an unusable frame format, else on an unusable key colour, and
otherwise returns `Builder.composite`: the composite assembled over the repacked intervals
(`build_eq`). Its two closing self-checks never fail, since the repacked total is the
interval sum and the composite is well formed.
-/
namespace KeyedComposite

namespace Keying

theorem selectProperties_eq_error_iff (p : Params) (e : ColorError) :
    p.selectProperties = .error e ↔ frei0rColor p.keyColor = .error e := by
  unfold Params.selectProperties
  cases frei0rColor p.keyColor <;> simp

theorem exists_selectProperties_eq_ok_iff (p : Params) :
    (∃ s, p.selectProperties = .ok s) ↔ ∃ c, frei0rColor p.keyColor = .ok c := by
  unfold Params.selectProperties
  cases frei0rColor p.keyColor <;> simp

end Keying

namespace Composite

namespace Builder

variable (b : Builder) (select : List Keying.Property) (ivs : List Interval)
  (textures : List String)

def composite : Document :=
  b.assemble select (repack b.format ivs).1 (totalFrames b.format ivs) textures

theorem composite_wellFormed : (b.composite select ivs textures).WellFormed :=
  assemble_wellFormed b select _ _ textures (by rw [map_index_repack]; exact List.nodup_range)

/-- What a build does: fail on the frame format, else on the key colour, else return the
composite over the repacked intervals. -/
theorem build_eq :
    b.build ivs textures =
      match b.format.validate, b.keying.selectProperties with
      | .error e, _ => .error (.format e)
      | .ok (), .error e => .error (.keyColor e)
      | .ok (), .ok select => .ok (b.composite select ivs textures) := by
  unfold build
  cases hv : b.format.validate with
  | error e => rfl
  | ok u =>
    cases hs : b.keying.selectProperties with
    | error e => rfl
    | ok select =>
      have htotal : (repack b.format ivs).2 = totalFrames b.format ivs := repack_snd _ _
      have hwf := composite_wellFormed b select ivs textures
      unfold composite at hwf ⊢
      rcases hr : repack b.format ivs with ⟨ps, total⟩
      rw [hr] at htotal hwf
      simp only at htotal
      subst htotal
      simp [hwf.check_eq_ok]

theorem build_eq_ok_iff {doc : Document} :
    b.build ivs textures = .ok doc ↔ b.format.validate = .ok () ∧
      ∃ select, b.keying.selectProperties = .ok select ∧ doc = b.composite select ivs textures := by
  rw [build_eq]
  cases b.format.validate with
  | error e => simp
  | ok u =>
    cases b.keying.selectProperties with
    | error e => simp
    | ok select => simp [eq_comm]

theorem build_eq_error_iff {e : BuildError} :
    b.build ivs textures = .error e ↔
      (∃ fe, b.format.validate = .error fe ∧ e = .format fe) ∨
      (b.format.validate = .ok () ∧
        ∃ ce, Keying.frei0rColor b.keying.keyColor = .error ce ∧ e = .keyColor ce) := by
  rw [build_eq]
  cases b.format.validate with
  | error fe => simp [eq_comm]
  | ok u =>
    cases hs : b.keying.selectProperties with
    | error ce =>
      have hc := (Keying.selectProperties_eq_error_iff _ _).mp hs
      constructor
      · intro he
        cases he
        exact .inr ⟨rfl, ce, hc, rfl⟩
      · rintro (⟨fe, hfe, -⟩ | ⟨-, ce', hc', rfl⟩)
        · cases hfe
        · rw [hc] at hc'
          cases hc'
          rfl
    | ok select =>
      have hc : ∀ ce, Keying.frei0rColor b.keying.keyColor ≠ .error ce := fun ce hce => by
        rw [← Keying.selectProperties_eq_error_iff, hs] at hce
        cases hce
      simp [hc]

/-- A keyed composite is built exactly when the frame format and the key colour are usable.
It then passes its own check (its ids are nonempty and distinct across all kinds, and every
reference resolves) and holds two producers per interval besides the black one; no other
failure can occur, the repacked total being the interval sum. -/
theorem build_ok_iff_usable :
    (repack b.format ivs).2 = totalFrames b.format ivs ∧
    ((∃ doc, b.build ivs textures = .ok doc) ↔
      b.format.validate = .ok () ∧ ∃ c, Keying.frei0rColor b.keying.keyColor = .ok c) ∧
    (∀ doc, b.build ivs textures = .ok doc →
      doc.WellFormed ∧ doc.check = .ok ⟨doc.declarations⟩ ∧
        doc.producers.length = 2 * ivs.length + 1) ∧
    (∀ e, b.build ivs textures = .error e →
      (∃ fe, b.format.validate = .error fe ∧ e = .format fe) ∨
      (b.format.validate = .ok () ∧
        ∃ ce, Keying.frei0rColor b.keying.keyColor = .error ce ∧ e = .keyColor ce)) := by
  refine ⟨repack_snd _ _, ?_, ?_, fun e => (build_eq_error_iff b ivs textures).mp⟩
  · rw [← Keying.exists_selectProperties_eq_ok_iff]
    constructor
    · rintro ⟨doc, h⟩
      obtain ⟨hv, select, hs, -⟩ := (build_eq_ok_iff b ivs textures).mp h
      exact ⟨hv, select, hs⟩
    · rintro ⟨hv, select, hs⟩
      exact ⟨_, (build_eq_ok_iff b ivs textures).mpr ⟨hv, select, hs, rfl⟩⟩
  · intro doc h
    obtain ⟨-, select, -, rfl⟩ := (build_eq_ok_iff b ivs textures).mp h
    have hwf := composite_wellFormed b select ivs textures
    refine ⟨hwf, hwf.check_eq_ok, ?_⟩
    simp [composite, assemble]
    omega

end Builder

end Composite

end KeyedComposite
