import Mathlib
import Glitch.Effect.Registry
import Glitch.Proofs.EchoTrail
import Glitch.Proofs.ExportFailures
import Glitch.Proofs.ChannelRoll
/-!
Size and alpha under the built-in effects. Every built-in effect succeeds on every frame, every
parameter map, every state and every context, and changes at most the color channels: its frame
has the input's size, hence its byte length, and each pixel's alpha. The passes that read other
pixels than the one they write succeed because each of their reads lands inside the frame: the
VHS bleed reads at most two columns away from a column at least two from each edge, the chroma
shift clamps its columns into the row, a displaced row reads its own row, whose index the
tracking pass keeps below the height, and the channel shift reads columns taken modulo the width.
The random passes keep this whatever the generator draws, since no draw reaches a size, an index
or an alpha. A chain of built-in
effects within the depth limit can therefore fail only at an unknown effect id or at a mask of
another size than the frame, and a chain that succeeds keeps the frame's size.
-/
namespace Glitch

/-! ## Frames changed in their colors only -/

/-- `g` is `f` with at most its color channels changed: the same size and each pixel's alpha. -/
structure Frame.Recolors (f g : Frame) : Prop where
  width_eq : g.width = f.width
  height_eq : g.height = f.height
  alpha_eq : g.pixels.map Pixel.a = f.pixels.map Pixel.a

namespace Frame

theorem Recolors.refl (f : Frame) : f.Recolors f := ⟨rfl, rfl, rfl⟩

theorem Recolors.trans {f g h : Frame} (h₁ : f.Recolors g) (h₂ : g.Recolors h) : f.Recolors h :=
  ⟨h₂.width_eq.trans h₁.width_eq, h₂.height_eq.trans h₁.height_eq, h₂.alpha_eq.trans h₁.alpha_eq⟩

theorem Recolors.dims_eq {f g : Frame} (h : f.Recolors g) : g.dims = f.dims := by
  simp [dims, h.width_eq, h.height_eq]

theorem Recolors.size_bytes_eq {f g : Frame} (h : f.Recolors g) : g.bytes.size = f.bytes.size := by
  rw [size_bytes, size_bytes, h.width_eq, h.height_eq]

@[simp] theorem channel_three (p : Pixel) : p.channel 3 = p.a := rfl

/-- Byte `4 * i + 3`, the alpha of pixel `i`, is the same in both frames. -/
theorem Recolors.alpha_byte_eq {f g : Frame} (h : f.Recolors g) (i : Nat) :
    g.bytes[4 * i + 3]? = f.bytes[4 * i + 3]? := by
  have hi := congrArg (fun ps => ps.toList[i]?) h.alpha_eq
  simp only [Array.toList_map, List.getElem?_map] at hi
  rw [← Array.getElem?_toList, ← Array.getElem?_toList, toList_bytes, toList_bytes,
    getElem?_flatMap_channels _ _ (by decide), getElem?_flatMap_channels _ _ (by decide)]
  simpa using hi

theorem recolors_map {φ : Pixel → Pixel} (hφ : ∀ p, (φ p).a = p.a) (f : Frame) :
    f.Recolors (f.map φ) :=
  ⟨rfl, rfl, by simp [map, Function.comp_def, hφ]⟩

theorem recolors_mapXY {φ : Nat → Nat → Pixel → Pixel} (hφ : ∀ x y p, (φ x y p).a = p.a)
    (f : Frame) : f.Recolors (f.mapXY φ) := by
  refine ⟨rfl, rfl, Array.ext (by simp [mapXY]) fun i h₁ h₂ => ?_⟩
  simp [mapXY, hφ]

/-- A map that may fail, answers at every pixel inside the frame and keeps each alpha it answers
with goes through the frame and changes colors only. -/
theorem recolors_mapXY? {φ : Nat → Nat → Pixel → Option Pixel} {f : Frame}
    (hin : ∀ x y p, x < f.width → y < f.height → (φ x y p).isSome)
    (ha : ∀ x y p q, φ x y p = some q → q.a = p.a) : ∃ g, f.mapXY? φ = some g ∧ f.Recolors g := by
  refine ⟨f.mapXY fun x y p => (φ x y p).getD p, mapXY?_eq_some fun x y p hx hy => ?_,
    recolors_mapXY (fun x y p => ?_) f⟩
  · obtain ⟨q, hq⟩ := Option.isSome_iff_exists.1 (hin x y p hx hy)
    rw [hq]
    rfl
  · cases hq : φ x y p with
    | none => rfl
    | some q => exact ha x y p q hq

theorem recolors_zipWith {φ : Pixel → Pixel → Pixel} (hφ : ∀ p q, (φ p q).a = p.a)
    (f f' : Frame) : f.Recolors (f.zipWith φ f') := by
  refine ⟨rfl, rfl, Array.ext (by simp [zipWith]) fun i h₁ h₂ => ?_⟩
  simp [zipWith, hφ]

/-- Setting a pixel to one of the same alpha changes the colors only. -/
theorem recolors_set {f : Frame} {x y : Nat} {p : Pixel} (hp : p.a = (f.pixelAt x y).a) :
    f.Recolors (f.set x y p) := by
  unfold set
  split
  · rename_i hxy
    -- the pixel set sits inside the frame, where `pixelAt` reads it
    have hlt : y * f.width + x < f.pixels.size := by
      have := Nat.mul_le_mul_right f.width (show y + 1 ≤ f.height by omega)
      rw [f.size_eq, Nat.succ_mul] at *
      rw [Nat.mul_comm f.width]
      omega
    have hat : f.pixelAt x y = f.pixels[y * f.width + x] := by
      simp [pixelAt, get?, hxy, hlt]
    refine ⟨rfl, rfl, Array.ext (by simp) fun i h₁ h₂ => ?_⟩
    have hi : i < f.pixels.size := by simpa using h₂
    simp only [Array.getElem_map]
    rw [Array.getElem_setIfInBounds hi]
    split
    · rename_i hidx
      subst hidx
      rw [hp, hat]
    · rfl
  · exact .refl f

theorem map_a_mapAccumFrom {σ : Type} {φ : σ → Pixel → Pixel × σ} (hφ : ∀ s p, (φ s p).1.a = p.a)
    (acc : List Pixel) (s : σ) (ps : List Pixel) :
    (mapAccumFrom φ acc s ps).1.map Pixel.a = acc.reverse.map Pixel.a ++ ps.map Pixel.a := by
  induction ps generalizing acc s with
  | nil => simp [mapAccumFrom]
  | cons p ps ih => simp [mapAccumFrom, ih, hφ]

theorem recolors_mapAccum {σ : Type} {φ : σ → Pixel → Pixel × σ} (hφ : ∀ s p, (φ s p).1.a = p.a)
    (s : σ) (f : Frame) : f.Recolors (f.mapAccum φ s).1 := by
  refine ⟨rfl, rfl, ?_⟩
  apply Array.toList_inj.1
  simpa [Frame.mapAccum, Glitch.mapAccum] using map_a_mapAccumFrom hφ [] s f.pixels.toList

end Frame

/-! ## The built-in effects -/

/-- An effect that succeeds on every input and changes at most the color channels. -/
def Effect.OnlyRecolors (e : Effect) : Prop :=
  ∀ f p s ctx, ∃ out s', e.apply f p s ctx = .ok (out, s') ∧ f.Recolors out

theorem Invert.recolors_run (f : Frame) : f.Recolors (run f) := by
  unfold run
  refine Frame.recolors_map (fun _ => ?_) f
  rfl

theorem Invert.onlyRecolors : Invert.effect.OnlyRecolors :=
  fun f _ _ _ => ⟨_, _, rfl, recolors_run f⟩

theorem Posterize.recolors_run (levels : Int) (f : Frame) : f.Recolors (run levels f) := by
  unfold run
  refine Frame.recolors_map (fun _ => ?_) f
  rfl

theorem Posterize.onlyRecolors : Posterize.effect.OnlyRecolors :=
  fun f p _ _ => ⟨_, _, rfl, recolors_run (levels p) f⟩

theorem Noise.recolors_run (i : F32) (seed : Nat) (f : Frame) : f.Recolors (run i seed f) := by
  unfold run
  split
  · exact .refl f
  · refine Frame.recolors_mapAccum (fun _ _ => ?_) _ f
    rfl

theorem Noise.onlyRecolors : Noise.effect.OnlyRecolors :=
  fun f p _ ctx => ⟨_, _, rfl, recolors_run (intensity p) ctx.seed f⟩

theorem HueShift.recolors_run (amount : F32) (f : Frame) : f.Recolors (run amount f) := by
  unfold run
  split
  · exact .refl f
  · refine Frame.recolors_map (fun _ => ?_) f
    rfl

theorem HueShift.onlyRecolors : HueShift.effect.OnlyRecolors :=
  fun f p _ _ => ⟨_, _, rfl, recolors_run (amount p) f⟩

theorem ChannelShift.recolors_run (offs : Int × Int × Int) (f : Frame) :
    f.Recolors (run offs f) := by
  obtain ⟨a, b, c⟩ := offs
  unfold run
  dsimp only
  split
  · exact .refl f
  · refine Frame.recolors_mapXY (fun _ _ _ => ?_) f
    rfl

theorem ChannelShift.onlyRecolors : ChannelShift.effect.OnlyRecolors :=
  fun f p s ctx => ⟨_, _, apply_eq f p s ctx, recolors_run (offsets p) f⟩

theorem Echo.recolors_run (d : F32) (state : Option EffectState) (f : Frame) :
    f.Recolors (run d state f) := by
  unfold run
  split
  · refine Frame.recolors_zipWith (fun _ _ => ?_) f _
    rfl
  · exact .refl f

theorem Echo.onlyRecolors : Echo.effect.OnlyRecolors :=
  fun f p s _ => ⟨_, _, rfl, recolors_run (decay p) s f⟩

/-- A run that may stop at a read outside its frame goes through, with `f`'s colors changed only. -/
def Frame.RecolorsSome {σ : Type} (f : Frame) (o : Option (Frame × σ)) : Prop :=
  ∃ fg, o = some fg ∧ f.Recolors fg.1

theorem mapM_eq_some_map {α β : Type} {g : α → Option β} {G : α → β} :
    ∀ {l : List α}, (∀ a ∈ l, g a = some (G a)) → l.mapM g = some (l.map G)
  | [], _ => rfl
  | a :: l, h => by
    simp [List.mapM_cons, h a List.mem_cons_self,
      mapM_eq_some_map fun b hb => h b (List.mem_cons_of_mem a hb)]

/-- A run continued, from what it gives, by runs that go through and change colors only. -/
theorem Frame.RecolorsSome.bind {σ τ : Type} {f₀ : Frame} {o : Option (Frame × σ)}
    {k : Frame × σ → Option (Frame × τ)} (ho : f₀.RecolorsSome o)
    (hk : ∀ fg, f₀.Recolors fg.1 → f₀.RecolorsSome (k fg)) : f₀.RecolorsSome (o.bind k) := by
  obtain ⟨fg, rfl, h⟩ := ho
  exact hk fg h

/-- The run lemma for folds: a fold whose every step over the list goes through and changes
colors only, whatever else it threads, goes through and changes colors only. -/
theorem Frame.recolors_foldlM {σ α : Type} {f₀ : Frame} {step : Frame × σ → α → Option (Frame × σ)}
    (xs : List α) (hstep : ∀ fg, ∀ a ∈ xs, f₀.Recolors fg.1 → f₀.RecolorsSome (step fg a)) :
    ∀ fg : Frame × σ, f₀.Recolors fg.1 → f₀.RecolorsSome (xs.foldlM step fg) := by
  induction xs with
  | nil => exact fun fg h => ⟨fg, rfl, h⟩
  | cons a xs ih =>
    intro fg h
    obtain ⟨fg₁, h₁, hr₁⟩ := hstep fg a List.mem_cons_self h
    obtain ⟨fg₂, h₂, hr₂⟩ := ih (fun fg b hb => hstep fg b (List.mem_cons_of_mem a hb)) fg₁ hr₁
    exact ⟨fg₂, by simp [List.foldlM_cons, h₁, h₂], hr₂⟩

namespace Vhs

theorem recolors_scanlines (i : F32) (f : Frame) : f.Recolors (scanlines i f) := by
  unfold scanlines
  split
  · exact .refl f
  · refine Frame.recolors_mapXY (fun _ _ _ => ?_) f
    rfl

theorem recolors_bleed (i : F32) (f : Frame) : ∃ g, bleed i f = some g ∧ f.Recolors g := by
  unfold bleed
  split
  · exact ⟨f, rfl, .refl f⟩
  · refine Frame.recolors_mapXY? (fun x y p _ hy => ?_) (fun x y p q hq => ?_)
    · -- the four neighbours read lie within two columns of one two columns from each edge
      split
      · rename_i hx
        simp only [Bool.and_eq_true, decide_eq_true_eq] at hx
        rw [f.get?_of_lt (by omega) hy, f.get?_of_lt (by omega) hy, f.get?_of_lt (by omega) hy,
          f.get?_of_lt (by omega) hy]
        rfl
      · rfl
    · split at hq
      · simp only [Option.bind_eq_bind, Option.bind_eq_some_iff, Option.pure_def,
          Option.some.injEq] at hq
        obtain ⟨_, -, _, -, _, -, _, -, rfl⟩ := hq
        rfl
      · cases hq
        rfl

theorem recolors_chroma (i : F32) (f : Frame) : ∃ g, chroma i f = some g ∧ f.Recolors g := by
  unfold chroma
  dsimp only
  split
  · exact ⟨f, rfl, .refl f⟩
  · rename_i h
    have hw : 0 < f.width := Nat.pos_of_ne_zero fun h0 => by simp [h0] at h
    refine Frame.recolors_mapXY? (fun x y p _ hy => ?_) (fun x y p q hq => ?_)
    · -- both columns are clamped into the row
      rw [f.get?_of_lt (by omega) hy, f.get?_of_lt (by omega) hy]
      rfl
    · simp only [Option.bind_eq_bind, Option.bind_eq_some_iff, Option.pure_def,
        Option.some.injEq] at hq
      obtain ⟨_, -, _, -, rfl⟩ := hq
      rfl

/-- Moving a row sideways and filling it with snow reads only its own row, whatever is drawn, and
keeps every alpha. -/
theorem recolors_displaceRow {f₀ : Frame} {y : Nat} (hy : y < f₀.height) (disp : Int)
    (fg : Frame × Rng) (h : f₀.Recolors fg.1) : f₀.RecolorsSome (displaceRow y disp fg) := by
  unfold displaceRow
  split
  · exact ⟨fg, rfl, h⟩
  · dsimp only
    have hy₁ : y < fg.1.height := by rw [h.height_eq]; exact hy
    have hsaved : (List.range fg.1.width).mapM (fun x => fg.1.get? x y) =
        some ((List.range fg.1.width).map fun x => fg.1.pixelAt x y) :=
      mapM_eq_some_map fun x hx => fg.1.get?_of_lt (List.mem_range.1 hx) hy₁
    rw [hsaved, Option.bind_eq_bind, Option.bind_some]
    refine Frame.recolors_foldlM _ (fun cur x hx hcur => ?_) fg h
    have hx' : x < cur.1.width := by rw [hcur.width_eq, ← h.width_eq]; exact List.mem_range.1 hx
    have hy' : y < cur.1.height := by rw [hcur.height_eq]; exact hy
    simp only [cur.1.get?_of_lt hx' hy', Option.bind_eq_bind, Option.bind_some]
    split
    · rename_i hsrc
      simp only [Bool.and_eq_true, decide_eq_true_eq] at hsrc
      have hk : ((x : Int) - disp).toNat < fg.1.width := by omega
      simp only [List.getElem?_map, List.getElem?_range hk, Option.map_some, Option.bind_some,
        Option.pure_def]
      exact ⟨_, rfl, hcur.trans (Frame.recolors_set rfl)⟩
    · exact ⟨_, rfl, hcur.trans (Frame.recolors_set rfl)⟩

/-- A tracking error moves the row it hits, and the next one only when it lies inside the frame,
keeping every alpha. -/
theorem recolors_trackRow {f₀ : Frame} (prob : F32) {y : Nat} (hy : y < f₀.height)
    {fg : Frame × Rng} (h : f₀.Recolors fg.1) : f₀.RecolorsSome (trackRow prob fg y) := by
  obtain ⟨f, g⟩ := fg
  unfold trackRow
  dsimp only at h ⊢
  split
  · exact ⟨_, rfl, h⟩
  · refine (recolors_displaceRow hy _ _ h).bind fun fg₁ hr₁ => ?_
    split
    · rename_i hnext
      simp only [Bool.and_eq_true, decide_eq_true_eq] at hnext
      exact recolors_displaceRow (by rw [← hr₁.height_eq]; exact hnext.2) _ _ hr₁
    · exact ⟨_, rfl, hr₁⟩

theorem recolors_tracking (i : F32) (f : Frame) (g : Rng) : f.RecolorsSome (tracking i f g) := by
  unfold tracking
  split
  · exact ⟨_, rfl, .refl f⟩
  · exact Frame.recolors_foldlM _ (fun _ y hy h => recolors_trackRow _ (List.mem_range.1 hy) h)
      (f, g) (.refl f)

theorem noisePixel_a (prob : F32) (g : Rng) (p : Pixel) : (noisePixel prob g p).1.a = p.a := by
  unfold noisePixel
  dsimp only
  split
  · rfl
  · split
    · rfl
    · split <;> rfl

theorem recolors_noise (i : F32) (f : Frame) (g : Rng) : f.Recolors (noise i f g).1 := by
  unfold noise
  split
  · exact .refl f
  · exact Frame.recolors_mapAccum (noisePixel_a _) g f

theorem recolors_run (p : Params) (seed : Nat) (f : Frame) :
    ∃ g, run p seed f = some g ∧ f.Recolors g := by
  obtain ⟨f₂, e₂, h₂⟩ := recolors_bleed (level p "color_bleeding" 0.8 * level p "intensity" 1)
    (scanlines (level p "scanline_intensity" 0.9 * level p "intensity" 1) f)
  obtain ⟨f₃, e₃, h₃⟩ := recolors_chroma (level p "chroma_shift" 0.7 * level p "intensity" 1) f₂
  obtain ⟨⟨f₄, g₄⟩, e₄, h₄⟩ :=
    recolors_tracking (level p "tracking_error" 0.5 * level p "intensity" 1) f₃ (Rng.ofSeed seed)
  refine ⟨_, by simp only [run, e₂, e₃, e₄, Option.bind_eq_bind, Option.bind_some, Option.pure_def]; rfl,
    ?_⟩
  exact (recolors_scanlines _ f).trans (h₂.trans (h₃.trans (h₄.trans (recolors_noise _ _ _))))

theorem onlyRecolors : effect.OnlyRecolors := by
  intro f p _ ctx
  obtain ⟨out, hrun, hrec⟩ := recolors_run p ctx.seed f
  exact ⟨out, none, by simp only [effect, hrun, Option.map_some, Effect.orPanic], hrec⟩

end Vhs

/-! ## The built-in registry -/

theorem Registry.mem_foldl_register {es : List Effect} {R : Registry} {e : Effect}
    (h : e ∈ (es.foldl register R).effects) : e ∈ R.effects ∨ e ∈ es := by
  induction es generalizing R with
  | nil => exact .inl h
  | cons d es ih =>
    rcases ih h with h | h
    · rcases mem_insertSorted h with rfl | h
      · exact .inr List.mem_cons_self
      · exact .inl h
    · exact .inr (List.mem_cons_of_mem d h)

/-- A registry built from a list holds effects of the list only. -/
theorem Registry.mem_ofList {es : List Effect} {e : Effect} (h : e ∈ (ofList es).effects) : e ∈ es :=
  (mem_foldl_register h).resolve_left List.not_mem_nil

theorem Registry.builtin_onlyRecolors : ∀ e ∈ Registry.builtin.effects, e.OnlyRecolors := by
  intro e he
  have hmem := Registry.mem_ofList he
  simp only [List.mem_cons, List.not_mem_nil, or_false] at hmem
  rcases hmem with rfl | rfl | rfl | rfl | rfl | rfl | rfl
  exacts [Invert.onlyRecolors, Posterize.onlyRecolors, Noise.onlyRecolors, HueShift.onlyRecolors,
    ChannelShift.onlyRecolors, Echo.onlyRecolors, Vhs.onlyRecolors]

/-! ## The container and the chain -/

namespace Container

/-- Mixing zips over the dry frame and masking maps over it, so both keep its size. -/
theorem dims_finish {dry wet : Frame} (hw : wet.dims = dry.dims) (s : Split) :
    (finish dry wet s).dims = dry.dims := by
  have hmixed : (if s.mix.le 0 then dry else if s.mix.lt 1 then mixFrames dry wet s.mix
      else wet).dims = dry.dims := by
    split_ifs
    · rfl
    · rfl
    · exact hw
  unfold finish
  dsimp only
  split
  · rfl
  · exact hmixed

/-- A run through the container keeps the frame's size, whatever the effect returns: an output
of another size is refused before mixing. -/
theorem dims_of_process {e : Effect} {f out : Frame} {p : Params} {st st' : Option EffectState}
    {n s : Nat} {r : Nat × Nat} (h : process e f p st n s r = .ok (out, st')) :
    out.dims = f.dims := by
  rcases process_cases e f p st n s r with ⟨m, -, -, hm⟩ | ⟨-, hrun⟩
  · rw [hm] at h
    cases h
  rw [hrun] at h
  unfold process.run at h
  split at h
  · cases h
  · split at h
    · cases h
    · rename_i hw
      cases h
      exact dims_finish (not_not.1 hw) _

/-- Around an effect that always succeeds with a frame of the input's size, the container fails
only at a mask of another size. -/
theorem process_error_of_onlyRecolors {e : Effect} (he : e.OnlyRecolors) {f : Frame} {p : Params}
    {st : Option EffectState} {n s : Nat} {r : Nat × Nat} {err : GlitchError}
    (h : process e f p st n s r = .error err) : ∃ d m, err = .effect (.maskShape e.id d m) := by
  rcases process_cases e f p st n s r with ⟨m, -, -, hm⟩ | ⟨-, hrun⟩
  · rw [hm] at h
    cases h
    exact ⟨_, _, rfl⟩
  obtain ⟨out, st', happly, hrec⟩ :=
    he f (split p).params st ⟨n, deriveSeed s e.id n (userSeed p), r⟩
  rw [hrun] at h
  unfold process.run at h
  rw [happly] at h
  dsimp only at h
  rw [if_neg (not_not.2 hrec.dims_eq)] at h
  cases h

end Container

namespace Chain

variable {c : ChainContext}

theorem dims_of_step {acc acc' : Frame × EffectStates} {i : EffectInstance}
    (h : step c acc i = .ok acc') : acc'.1.dims = acc.1.dims := by
  obtain ⟨f, T⟩ := acc
  obtain ⟨f', T'⟩ := acc'
  rcases step_cases c h with ⟨_, rfl, _⟩ | ⟨_, e, st, _, hp, _⟩
  · rfl
  · exact Container.dims_of_process hp

theorem dims_of_foldlM {chain : List EffectInstance} {acc acc' : Frame × EffectStates}
    (h : chain.foldlM (step c) acc = .ok acc') : acc'.1.dims = acc.1.dims := by
  induction chain generalizing acc with
  | nil =>
    cases h
    rfl
  | cons i chain ih =>
    rw [List.foldlM_cons, bind_eq_ok] at h
    obtain ⟨acc₁, hstep, hrest⟩ := h
    exact (ih hrest).trans (dims_of_step hstep)

/-- A chain that runs keeps the frame's size, over any registry. -/
theorem dims_of_apply {f f' : Frame} {chain : List EffectInstance} {S : EffectStates}
    (h : apply c f chain = .ok (f', S)) : f'.dims = f.dims := by
  rw [apply_eq_foldlM c f (length_le_of_apply c h)] at h
  exact dims_of_foldlM h

/-- Over effects that change colors only, a step fails only at an unknown id or at a mask of
another size. -/
theorem step_error_of_onlyRecolors (hR : ∀ e ∈ c.registry.effects, e.OnlyRecolors)
    {acc : Frame × EffectStates} {i : EffectInstance} {err : GlitchError}
    (h : step c acc i = .error err) :
    (∃ id, err = .pipeline (.unknownEffect id)) ∨ ∃ id d m, err = .effect (.maskShape id d m) := by
  obtain ⟨-, ⟨-, rfl⟩ | ⟨e, he, hp⟩⟩ := step_error_cases h
  · exact .inl ⟨_, rfl⟩
  · obtain ⟨d, m, rfl⟩ :=
      Container.process_error_of_onlyRecolors (hR e (List.mem_of_find?_eq_some he)) hp
    exact .inr ⟨_, d, m, rfl⟩

theorem apply_error_of_onlyRecolors (hR : ∀ e ∈ c.registry.effects, e.OnlyRecolors) {f : Frame}
    {chain : List EffectInstance} (hd : chain.length ≤ maxChainDepth) {err : GlitchError}
    (h : apply c f chain = .error err) :
    (∃ id, err = .pipeline (.unknownEffect id)) ∨ ∃ id d m, err = .effect (.maskShape id d m) := by
  rw [apply_eq_foldlM c f hd] at h
  obtain ⟨_, i, _, acc', _, _, hstep⟩ := foldlM_error h
  exact step_error_of_onlyRecolors hR hstep

end Chain

/-- Every built-in effect succeeds on every input with a frame of the input's size, byte length
and alpha bytes; so a chain of built-in effects within the depth limit fails only at an unknown
id or at a mask of another size, and a chain that runs keeps the frame's size. -/
theorem builtin_effects_keep_shape_and_alpha :
    (∀ e ∈ Registry.builtin.effects, ∀ f p s ctx, ∃ out s', e.apply f p s ctx = .ok (out, s') ∧
      out.dims = f.dims ∧ out.bytes.size = f.bytes.size ∧
      ∀ i, out.bytes[4 * i + 3]? = f.bytes[4 * i + 3]?) ∧
    ∀ c : ChainContext, c.registry = Registry.builtin → ∀ f chain, chain.length ≤ maxChainDepth →
      (∀ err, Chain.apply c f chain = .error err →
        (∃ id, err = .pipeline (.unknownEffect id)) ∨ ∃ id d m, err = .effect (.maskShape id d m)) ∧
      ∀ f' S, Chain.apply c f chain = .ok (f', S) → f'.dims = f.dims := by
  refine ⟨fun e he f p s ctx => ?_, fun c hc f chain hd => ?_⟩
  · obtain ⟨out, s', happly, hrec⟩ := Registry.builtin_onlyRecolors e he f p s ctx
    exact ⟨out, s', happly, hrec.dims_eq, hrec.size_bytes_eq, hrec.alpha_byte_eq⟩
  · have hR : ∀ e ∈ c.registry.effects, e.OnlyRecolors := hc ▸ Registry.builtin_onlyRecolors
    exact ⟨fun _ h => Chain.apply_error_of_onlyRecolors hR hd h, fun _ _ h => Chain.dims_of_apply h⟩

end Glitch
