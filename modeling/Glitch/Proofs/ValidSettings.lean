import Mathlib
import Glitch.Proofs.EncodeFit
import Glitch.Proofs.RingWrites
import Glitch.Proofs.ChainLaws
import Glitch.Config.File
/-!
Settings that pass their checks, and the operations that take their values. The checks of the
encoder and ring sections are the conditions the encoder and the ring check again on every call,
written a second time: the encoder section scans the whole ladder for qualities out of `1..100`
where the encoder tests the one quality it is given, and the ring section tests the slot count and
slot size where ring creation runs its own geometry check.

Main statement: once the settings pass, the encoder's search never reports an invalid quality or
an empty ladder, creating the ring never reports an invalid geometry, and writing a frame at the
ring's quality never reports an invalid quality; and the ring section refuses a slot count or a
slot size exactly when the ring's geometry check does.
-/
namespace Glitch

/-! ## What the checks accept -/

theorem Config.validate_eq_ok_iff (c : Config) :
    c.validate = .ok () ↔ c.pipeline.validate = .ok () ∧ c.encoder.validate = .ok () ∧
      c.ring.validate = .ok () ∧ c.exporting.validate = .ok () := by
  simp [Config.validate, bind_eq_ok, Unique.exists_iff]

/-- The encoder section passes exactly when its ladder has a quality, every quality is in
`1..100` and the byte budget is positive. -/
theorem EncoderConfig.validate_eq_ok_iff (c : EncoderConfig) :
    c.validate = .ok () ↔
      c.qualityLadder ≠ [] ∧ (∀ q ∈ c.qualityLadder, validQuality q) ∧ 0 < c.maxFrameBytes := by
  unfold EncoderConfig.validate
  by_cases hne : c.qualityLadder = []
  · simp [hne]
  · rw [if_neg (by simpa using hne)]
    cases hf : c.qualityLadder.find? (fun q => !validQuality q) with
    | some q =>
      obtain ⟨hbad, hmem⟩ := List.find?_some hf, List.mem_of_find?_eq_some hf
      simp only [reduceCtorEq, false_iff, not_and]
      intro _ hall
      simp [hall q hmem] at hbad
    | none =>
      have hall : ∀ q ∈ c.qualityLadder, validQuality q := by
        simpa using List.find?_eq_none.1 hf
      simp only [hne, ne_eq, not_false_eq_true, true_and]
      split_ifs with hz
      · simp [hz]
      · simp only [true_iff]
        exact ⟨hall, Nat.pos_of_ne_zero hz⟩

/-- The ring section passes exactly when it has a slot, each slot has room beyond its length
prefix and the quality is in `1..100`. -/
theorem RingConfig.validate_eq_ok_iff (c : RingConfig) :
    c.validate = .ok () ↔ 0 < c.slotCount ∧ 4 < c.slotSize ∧ validQuality c.quality := by
  unfold RingConfig.validate
  split_ifs with hc hs hq
  · simp [hc]
  · simp only [false_iff, not_and]
    intro _ hlt
    omega
  · simp_all
  · simp only [Bool.not_eq_true', Bool.not_eq_false] at hq
    simp only [hq, and_true, true_iff]
    omega

/-- The ring section's first two checks are the ring's geometry check: the section is refused
for its slot count or its slot size exactly when `validateGeometry` refuses the pair. -/
theorem RingConfig.geometry_refused_iff (c : RingConfig) :
    (∃ key v, (key = "ring_buffer.slot_count" ∨ key = "ring_buffer.slot_size") ∧
        c.validate = .error (invalidSetting key v)) ↔
      Ring.validateGeometry c.slotCount c.slotSize ≠ .ok () := by
  rw [Ne, Ring.validateGeometry_eq_ok]
  unfold RingConfig.validate
  by_cases hc : c.slotCount = 0
  · rw [if_pos hc]
    exact ⟨fun _ h => by omega, fun _ => ⟨_, _, .inl rfl, rfl⟩⟩
  by_cases hs : c.slotSize ≤ 4
  · rw [if_neg hc, if_pos hs]
    exact ⟨fun _ h => by unfold Ring.prefixSize at h; omega, fun _ => ⟨_, _, .inr rfl, rfl⟩⟩
  have hgeo : 0 < c.slotCount ∧ Ring.prefixSize < c.slotSize := ⟨by omega, by unfold Ring.prefixSize; omega⟩
  rw [if_neg hc, if_neg hs, iff_false_intro (not_not_intro hgeo), iff_false]
  rintro ⟨key, v, hkey, he⟩
  split_ifs at he
  simp only [invalidSetting, Except.error.injEq, GlitchError.config.injEq,
    ConfigError.invalidValue.injEq] at he
  rcases hkey with rfl | rfl <;> simp at he

/-! ## Qualities in range -/

theorem encodeFrame_error_of_valid {f : Frame} {q : Nat} {e : GlitchError} (hq : validQuality q)
    (he : encodeFrame f q = .error e) : ∃ r, e = .encode (.codec r) := by
  unfold encodeFrame encodePrepared at he
  rw [if_neg (by simp [validQuality] at hq ⊢; omega)] at he
  split at he
  · cases he
  · cases he
    exact ⟨_, rfl⟩

theorem encodeFit_error_of_valid {f : Frame} {maxBytes : Nat} {ladder : List Nat}
    (hne : ladder ≠ []) (hq : ∀ q ∈ ladder, validQuality q) {e : GlitchError}
    (he : encodeFit f maxBytes ladder = .error e) :
    (∃ r, e = .encode (.codec r)) ∨ ∃ size q, e = .encode (.overflow size q maxBytes) := by
  have hfit : encodeFit f maxBytes ladder = searchLadder (encodeFrame f) maxBytes ladder := rfl
  rw [hfit] at he
  rcases searchLadder_cases (encodeFrame f) maxBytes ladder with
    ⟨pre, q, post, hcut, -, -, ⟨e', he', herr⟩ | ⟨bs, -, -, hok⟩⟩ |
      ⟨-, ⟨hnil, -⟩ | ⟨size, q, -, hov⟩⟩
  · -- the search stopped at an encoder failure, at a quality of the ladder
    rw [herr] at he
    cases he
    exact .inl (encodeFrame_error_of_valid (hq q (mem_ladderOrder.1 (by rw [hcut]; simp))) he')
  · rw [hok] at he
    cases he
  · exact absurd hnil hne
  · rw [hov] at he
    cases he
    exact .inr ⟨size, q, rfl⟩

namespace Ring.Writer

theorem writeEncoded_error {w : Writer} {p : ByteArray} {width height : UInt32} {e : GlitchError}
    (he : w.writeEncoded p width height = .error e) :
    e = .ring (.frameTooLarge p.size w.header.slotSize.toNat) := by
  dsimp only [writeEncoded] at he
  split at he
  · cases he
    rfl
  · cases he

theorem writeFrame_error_of_valid {w : Writer} {f : Frame} {q : Nat} {e : GlitchError}
    (hq : validQuality q) (he : w.writeFrame f q = .error e) :
    (∃ r, e = .encode (.codec r)) ∨ ∃ size slotSize, e = .ring (.frameTooLarge size slotSize) := by
  unfold writeFrame at he
  cases hb : encodeFrame f q with
  | error e' =>
    simp only [hb, bind, Except.bind, Except.error.injEq] at he
    subst he
    exact .inl (encodeFrame_error_of_valid hq hb)
  | ok bs =>
    simp only [hb, bind, Except.bind] at he
    exact .inr ⟨_, _, writeEncoded_error he⟩

end Ring.Writer

/-! ## Slot counts and sizes in 32 bits -/

/-- The ring section's slot count and slot size fit the 32-bit words the ring stores them in, as
every settings file read gives them. -/
structure RingConfig.Fits (c : RingConfig) : Prop where
  slotCount_lt : c.slotCount < UInt32.size
  slotSize_lt : c.slotSize < UInt32.size

theorem RingConfig.default_fits : RingConfig.default.Fits := ⟨by decide, by decide⟩

theorem Toml.natUpTo_le {bound n : Nat} {v : Toml.Value} (h : Toml.natUpTo bound v = .ok n) :
    n ≤ bound := by
  unfold Toml.natUpTo at h
  split at h
  · split at h
    · rename_i hin
      cases h
      simp only [Bool.and_eq_true, decide_eq_true_eq] at hin
      omega
    · cases h
  · cases h

theorem Toml.entryOr_natUpTo_le {kvs : List (String × Toml.Value)} {name : String} {bound d n : Nat}
    (hd : d ≤ bound) (h : Toml.entryOr kvs name (Toml.natUpTo bound) d = .ok n) : n ≤ bound := by
  unfold Toml.entryOr at h
  split at h
  · exact Toml.natUpTo_le h
  · cases h
    exact hd

theorem Config.ofToml_ring_fits {root : Toml.Value} {c : Config} (h : Config.ofToml root = .ok c) :
    c.ring.Fits := by
  unfold Config.ofToml at h
  obtain ⟨top, -, h⟩ := bind_eq_ok.1 h
  obtain ⟨pipeline, -, h⟩ := bind_eq_ok.1 h
  obtain ⟨encoder, -, h⟩ := bind_eq_ok.1 h
  obtain ⟨ring, hring, h⟩ := bind_eq_ok.1 h
  obtain ⟨exporting, -, h⟩ := bind_eq_ok.1 h
  cases h
  unfold Toml.entryOr at hring
  split at hring
  · obtain ⟨kvs, -, hring⟩ := bind_eq_ok.1 hring
    obtain ⟨path, -, hring⟩ := bind_eq_ok.1 hring
    obtain ⟨count, hcount, hring⟩ := bind_eq_ok.1 hring
    obtain ⟨size, hsize, hring⟩ := bind_eq_ok.1 hring
    obtain ⟨q, -, hring⟩ := bind_eq_ok.1 hring
    cases hring
    have hc := Toml.entryOr_natUpTo_le (by decide) hcount
    have hs := Toml.entryOr_natUpTo_le (by decide) hsize
    have hpow : Nat.pow 2 32 = 4294967296 := rfl
    exact ⟨by simp only [UInt32.size]; omega, by simp only [UInt32.size]; omega⟩
  · cases hring
    exact RingConfig.default_fits

theorem Config.load_ring_fits {path : String} {contents : Option String} {c : Config}
    (h : Config.load path contents = .ok c) : c.ring.Fits := by
  unfold Config.load at h
  split at h
  · cases h
  · split at h
    · rename_i hc
      cases h
      unfold Config.ofText at hc
      split at hc
      · exact Config.ofToml_ring_fits hc
      · cases hc
    · cases h

theorem RingConfig.create_ok {c : RingConfig} (hfit : c.Fits) (hv : c.validate = .ok ())
    (path : String) : ∃ w, Ring.Writer.create path c.slotCount.toUInt32 c.slotSize.toUInt32 = .ok w := by
  obtain ⟨hc, hs, -⟩ := (RingConfig.validate_eq_ok_iff c).1 hv
  have hg : Ring.validateGeometry c.slotCount.toUInt32.toNat c.slotSize.toUInt32.toNat = .ok () := by
    rw [Ring.validateGeometry_eq_ok, Nat.toUInt32_eq, Nat.toUInt32_eq,
      UInt32.toNat_ofNat_of_lt' hfit.slotCount_lt, UInt32.toNat_ofNat_of_lt' hfit.slotSize_lt]
    exact ⟨hc, hs⟩
  exact ⟨_, Ring.Writer.create_eq hg⟩

/-! ## Settings that pass -/

/-- What settings guarantee to the operations that take their values: the encoder's search never
reports an invalid quality or an empty ladder, creating the ring never reports an invalid
geometry, and writing a frame at the ring's quality never reports an invalid quality. -/
structure Config.RulesOutSetupErrors (c : Config) : Prop where
  encode : ∀ f q,
    encodeFit f c.encoder.maxFrameBytes c.encoder.qualityLadder ≠ .error (.encode (.invalidQuality q)) ∧
      encodeFit f c.encoder.maxFrameBytes c.encoder.qualityLadder ≠ .error (.encode .emptyLadder)
  create : ∀ path d, Ring.Writer.create path c.ring.slotCount.toUInt32 c.ring.slotSize.toUInt32 ≠
    .error (.ring (.invalidGeometry d))
  write : ∀ (w : Ring.Writer) f q, w.writeFrame f c.ring.quality ≠ .error (.encode (.invalidQuality q))

/-- Settings that pass their checks, with the ring's slot count and slot size in 32 bits as every
settings file gives them (`Config.load_ring_fits`), rule out the setup errors of the operations
that take their values. And for every ring section, its checks refuse the slot count or the slot
size exactly when the ring's own geometry check refuses the pair. -/
theorem valid_settings_rule_out_setup_errors (c : Config) (hfit : c.ring.Fits)
    (hv : c.validate = .ok ()) :
    c.RulesOutSetupErrors ∧
      ∀ rc : RingConfig, (∃ key v, (key = "ring_buffer.slot_count" ∨ key = "ring_buffer.slot_size") ∧
          rc.validate = .error (invalidSetting key v)) ↔
        Ring.validateGeometry rc.slotCount rc.slotSize ≠ .ok () := by
  obtain ⟨-, henc, hring, -⟩ := (Config.validate_eq_ok_iff c).1 hv
  obtain ⟨hne, hq, -⟩ := (EncoderConfig.validate_eq_ok_iff _).1 henc
  obtain ⟨-, -, hquality⟩ := (RingConfig.validate_eq_ok_iff _).1 hring
  refine ⟨⟨fun f q => ?_, fun path d he => ?_, fun w f q he => ?_⟩, RingConfig.geometry_refused_iff⟩
  · -- on this ladder the search fails only inside the codec or by overflowing the budget
    constructor <;> intro he <;>
      rcases encodeFit_error_of_valid hne hq he with ⟨_, h⟩ | ⟨_, _, h⟩ <;> cases h
  · obtain ⟨w, hw⟩ := RingConfig.create_ok hfit hring path
    rw [hw] at he
    cases he
  · rcases Ring.Writer.writeFrame_error_of_valid hquality he with ⟨_, h⟩ | ⟨_, _, h⟩ <;> cases h

theorem valid_settings_at_the_edges :
    (⟨⟨1⟩, ⟨[100, 1], 1⟩, ⟨none, 1, 5, 1⟩, ExportConfig.default⟩ : Config).ring.Fits ∧
      (⟨⟨1⟩, ⟨[100, 1], 1⟩, ⟨none, 1, 5, 1⟩, ExportConfig.default⟩ : Config).validate = .ok () ∧
      (⟨⟨1⟩, ⟨[100, 1], 1⟩, ⟨none, 1, 5, 1⟩, ExportConfig.default⟩ : Config).RulesOutSetupErrors ∧
      ∀ rc : RingConfig, (∃ key v, (key = "ring_buffer.slot_count" ∨ key = "ring_buffer.slot_size") ∧
          rc.validate = .error (invalidSetting key v)) ↔
        Ring.validateGeometry rc.slotCount rc.slotSize ≠ .ok () :=
  ⟨⟨by decide, by decide⟩, by decide,
    valid_settings_rule_out_setup_errors _ ⟨by decide, by decide⟩ (by decide)⟩

end Glitch
