import Glitch.Proofs.ChainLaws
import Glitch.Proofs.ContainerMix
import Glitch.Effect.Registry
/-!
The echo's trail from one chain run to the next. A frame survives the trip through an effect
state: its byte form, read back at its own size, is the frame again. So when a run receives the
states of the run before it, the echo reads back exactly the frame that the last enabled echo of
that run returned, before the container's mix and mask, and blends toward it when the sizes
agree. A run without an enabled echo leaves no entry, and the next echo keeps its frame.
-/
namespace Glitch

namespace Frame

theorem toList_foldl_pushChannels (ps : List Pixel) (acc : Array UInt8) :
    (ps.foldl (fun acc p => acc.push p.r |>.push p.g |>.push p.b |>.push p.a) acc).toList =
      acc.toList ++ ps.flatMap Pixel.channels := by
  induction ps generalizing acc with
  | nil => simp
  | cons p ps ih =>
    rw [List.foldl_cons, ih]
    simp [Pixel.channels]

theorem toList_bytes (f : Frame) : f.bytes.toList = f.pixels.toList.flatMap Pixel.channels := by
  rw [bytes, ← Array.foldl_toList, toList_foldl_pushChannels]
  simp

theorem size_bytes (f : Frame) : f.bytes.size = f.width * f.height * 4 := by
  rw [← Array.length_toList, toList_bytes, List.length_flatMap]
  simp [Pixel.channels, f.size_eq]

/-- Byte `4 * i + k` of the flattened channels is channel `k` of pixel `i`. -/
theorem getElem?_flatMap_channels (ps : List Pixel) (i : Nat) {k : Nat} (hk : k < 4) :
    (ps.flatMap Pixel.channels)[4 * i + k]? = ps[i]?.map (·.channel k) := by
  induction ps generalizing i with
  | nil => simp
  | cons p ps ih =>
    have hlen : p.channels.length = 4 := rfl
    rw [List.flatMap_cons]
    cases i with
    | zero =>
      rw [List.getElem?_append_left (by omega)]
      interval_cases k <;> rfl
    | succ i =>
      rw [List.getElem?_append_right (by omega), hlen, show 4 * (i + 1) + k - 4 = 4 * i + k by omega,
        ih]
      simp

theorem pixelOfBytes_bytes (f : Frame) {i : Nat} (hi : i < f.pixels.size) :
    pixelOfBytes f.bytes i = f.pixels[i] := by
  have hbyte : ∀ k < 4, f.bytes.getD (4 * i + k) 0 = f.pixels[i].channel k := by
    intro k hk
    rw [Array.getD_eq_getD_getElem?, ← Array.getElem?_toList, toList_bytes,
      getElem?_flatMap_channels _ _ hk]
    simp [hi]
  simp only [pixelOfBytes]
  rw [← Nat.add_zero (4 * i), hbyte 0 (by omega), hbyte 1 (by omega), hbyte 2 (by omega),
    hbyte 3 (by omega)]
  rfl

@[simp] theorem ofBytes?_bytes (f : Frame) : ofBytes? f.width f.height f.bytes = some f := by
  rw [ofBytes?, if_pos (size_bytes f).ge]
  congr 1
  apply Frame.eq_of_pixels
  · rfl
  · rfl
  apply Array.ext
  · simp [ofFn, f.size_eq]
  · intro i h₁ h₂
    simp [ofFn, pixelOfBytes_bytes f h₂]

end Frame

@[simp] theorem EffectState.toFrame?_ofFrame (f : Frame) : (EffectState.ofFrame f).toFrame? = some f :=
  Frame.ofBytes?_bytes f

/-- The container hands back the state of the effect's own run. -/
theorem Container.process_state {e : Effect} {f out : Frame} {p : Params} {s st : Option EffectState}
    {idx seed : Nat} {res : Nat × Nat} (h : process e f p s idx seed res = .ok (out, st)) :
    ∃ w, e.apply f (split p).params s ⟨idx, deriveSeed seed e.id idx (userSeed p), res⟩ = .ok (w, st) := by
  rcases process_cases e f p s idx seed res with ⟨m, -, -, hm⟩ | ⟨-, hrun⟩
  · rw [hm] at h
    cases h
  rw [hrun] at h
  unfold process.run at h
  split at h
  · cases h
  · rename_i wet st' hap
    split at h
    · cases h
    · cases h
      exact ⟨wet, hap⟩

namespace Echo

theorem apply_eq (f : Frame) (p : Params) (s : Option EffectState) (ctx : EffectContext) :
    effect.apply f p s ctx = .ok (run (decay p) s f, some (.ofFrame (run (decay p) s f))) := rfl

/-- With its own earlier output as state, the echo blends toward it when the sizes agree. -/
theorem run_ofFrame (d : F32) (P f : Frame) :
    run d (some (.ofFrame P)) f = if P.dims = f.dims then f.zipWith (blendPixel d) P else f := by
  by_cases h : P.dims = f.dims <;> simp [run, previous, h]

@[simp] theorem run_none (d : F32) (f : Frame) : run d none f = f := rfl

/-- Through the container the echo records the frame it returned itself. -/
theorem process_state {f out : Frame} {p : Params} {s st : Option EffectState} {idx seed : Nat}
    {res : Nat × Nat} (h : Container.process effect f p s idx seed res = .ok (out, st)) :
    st = some (.ofFrame (run (decay (Container.split p).params) s f)) := by
  obtain ⟨w, hw⟩ := Container.process_state h
  rw [apply_eq] at hw
  cases hw
  rfl

end Echo

/-- When a chain run receives the states returned by the run before it, the echo of the new run
reads back exactly the frame that the last enabled echo of the earlier run returned, before the
container's mix and mask, and blends toward it when the sizes agree. A run without an enabled
echo leaves no entry, and the next echo returns its frame unchanged. -/
theorem echo_reads_back_last_output {R : Registry} (hR : R.find? "fx.echo" = some Echo.effect)
    {seed idx : Nat} {res : Nat × Nat} {T S : EffectStates} {f out : Frame}
    {chain : List EffectInstance} (hrun : Chain.apply ⟨R, seed, idx, res, T⟩ f chain = .ok (out, S)) :
    (∀ c₁ i c₂, chain = c₁ ++ i :: c₂ → i.enabled = true → i.effectId = "fx.echo" →
        (∀ i' ∈ c₂, i'.enabled = true → i'.effectId ≠ "fx.echo") →
      ∃ f₁ S₁ P, Chain.apply ⟨R, seed, idx, res, T⟩ f c₁ = .ok (f₁, S₁) ∧
        Echo.effect.apply f₁ (Container.split i.runParams).params ((T.get? "fx.echo").getD none)
          ⟨idx, deriveSeed seed "fx.echo" idx (Container.userSeed i.runParams), res⟩ =
          .ok (P, some (.ofFrame P)) ∧
        S.get? "fx.echo" = some (some (.ofFrame P)) ∧
        ∀ (g : Frame) p ctx, ∃ st, Echo.effect.apply g p ((S.get? "fx.echo").getD none) ctx =
          .ok (if P.dims = g.dims then g.zipWith (Echo.blendPixel (Echo.decay p)) P else g, st)) ∧
    ((∀ i ∈ chain, i.enabled = true → i.effectId ≠ "fx.echo") →
      S.get? "fx.echo" = none ∧
      ∀ (g : Frame) p ctx, ∃ st, Echo.effect.apply g p ((S.get? "fx.echo").getD none) ctx =
        .ok (g, st)) := by
  constructor
  · rintro c₁ i c₂ rfl hen hid hlast
    obtain ⟨f₁, S₁, e, fi, st, h₁, hfind, hproc, hget⟩ :=
      Chain.get?_apply_last _ hrun rfl hen (by rwa [hid])
    rw [hid, hR] at hfind
    cases hfind
    rw [hid] at hproc hget
    have hst := Echo.process_state hproc
    subst hst
    refine ⟨f₁, S₁, _, h₁, Echo.apply_eq .., hget, fun g p ctx => ?_⟩
    rw [hget, Option.getD_some, Echo.apply_eq, Echo.run_ofFrame]
    exact ⟨_, rfl⟩
  · intro hnone
    have habsent : S.get? "fx.echo" = none := by
      rw [← Option.not_isSome_iff_eq_none, Chain.isSome_get?_apply _ hrun]
      rintro ⟨i, hi, hen, hid⟩
      exact hnone i hi hen hid
    refine ⟨habsent, fun g p ctx => ?_⟩
    rw [habsent, Option.getD_none, Echo.apply_eq, Echo.run_none]
    exact ⟨_, rfl⟩

theorem single_echo_trail :
    let f := Frame.filled 1 1 ⟨5, 5, 5, 255⟩
    let S := EffectStates.empty.insert "fx.echo" (some (.ofFrame f))
    Registry.builtin.find? "fx.echo" = some Echo.effect ∧
    Chain.apply ⟨Registry.builtin, 0, 0, (1, 1), .empty⟩ f [.ofId "fx.echo"] = .ok (f, S) ∧
    ∃ P, S.get? "fx.echo" = some (some (.ofFrame P)) ∧
      ∀ (g : Frame) p ctx, ∃ st, Echo.effect.apply g p ((S.get? "fx.echo").getD none) ctx =
        .ok (if P.dims = g.dims then g.zipWith (Echo.blendPixel (Echo.decay p)) P else g, st) := by
  intro f S
  have hR : Registry.builtin.find? "fx.echo" = some Echo.effect := rfl
  have hrun : Chain.apply ⟨Registry.builtin, 0, 0, (1, 1), .empty⟩ f [.ofId "fx.echo"] =
      .ok (f, S) := by
    decide
  obtain ⟨_, _, P, _, _, hget, hnext⟩ :=
    (echo_reads_back_last_output hR hrun).1 [] (.ofId "fx.echo") [] rfl rfl rfl (by simp)
  exact ⟨hR, hrun, P, hget, hnext⟩

end Glitch
