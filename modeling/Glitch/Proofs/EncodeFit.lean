import Mathlib
import Glitch.Codec.Frame
/-!
The quality search of `encodeFit`, over any encoder of qualities. The ladder is put in order from
the highest quality down, each quality once, so the search sees only the set of ladder values. It stops at the first quality that
does not overflow the budget: there it answers the bytes when they fit and the encoder's error when
encoding fails. A quality that overflows is passed over, and remembered when its size is smaller
than every size before it, so among equal sizes the higher quality is kept. When every quality
overflows, the error names the smallest size and the highest quality that gave it.
-/
namespace Glitch

/-! ## The ladder in search order -/

theorem mem_ladderOrder {ladder : List Nat} {q : Nat} : q ∈ ladderOrder ladder ↔ q ∈ ladder := by
  simp [ladderOrder]

theorem pairwise_gt_eraseDups :
    ∀ {l : List Nat}, l.Pairwise (· ≥ ·) → l.eraseDups.Pairwise (· > ·)
  | [], _ => by simp
  | a :: as, h => by
    rw [List.eraseDups_cons]
    have hf : (as.filter fun b => !b == a).Pairwise (· ≥ ·) := (List.pairwise_cons.1 h).2.filter _
    refine List.pairwise_cons.2 ⟨fun b hb => ?_, pairwise_gt_eraseDups hf⟩
    -- what is left after `a` lies below `a` and differs from it
    obtain ⟨hb, hne⟩ := List.mem_filter.1 (List.mem_eraseDups.1 hb)
    have hle := (List.pairwise_cons.1 h).1 b hb
    simp only [Bool.not_eq_eq_eq_not, Bool.not_true, beq_eq_false_iff_ne, ne_eq] at hne
    omega
termination_by l => l.length
decreasing_by exact Nat.lt_succ_of_le (List.length_filter_le _ _)

theorem pairwise_ladderOrder (ladder : List Nat) : (ladderOrder ladder).Pairwise (· > ·) := by
  apply pairwise_gt_eraseDups
  have h : (ladder.mergeSort fun a b => decide (b ≤ a)).Pairwise fun a b => decide (b ≤ a) :=
    List.pairwise_mergeSort (fun a b c hab hbc => by simp at hab hbc ⊢; omega)
      (fun a b => by simp; omega) ladder
  exact h.imp (by simp)

theorem ladderOrder_congr {l l' : List Nat} (h : ∀ q, q ∈ l ↔ q ∈ l') :
    ladderOrder l = ladderOrder l' := by
  have hnodup : ∀ l, (ladderOrder l).Nodup := fun l => (pairwise_ladderOrder l).imp Nat.ne_of_gt
  refine List.Perm.eq_of_pairwise (fun a b _ _ hab hba => absurd hab (Nat.lt_asymm hba))
    (pairwise_ladderOrder l) (pairwise_ladderOrder l') ?_
  exact (List.perm_ext_iff_of_nodup (hnodup l) (hnodup l')).2 fun q => by
    simp only [mem_ladderOrder, h]

/-- In a strictly decreasing list cut at `q`, what stands before `q` is exactly what is above it. -/
theorem mem_pre_iff_gt {pre post : List Nat} {q x : Nat} (hd : (pre ++ q :: post).Pairwise (· > ·))
    (hx : x ∈ pre ++ q :: post) : x ∈ pre ↔ q < x := by
  rw [List.pairwise_append] at hd
  obtain ⟨-, hqpost, hcross⟩ := hd
  constructor
  · exact fun hpre => hcross x hpre q List.mem_cons_self
  · intro hlt
    rcases List.mem_append.1 hx with hpre | hpost
    · exact hpre
    rcases List.mem_cons.1 hpost with rfl | hpost
    · omega
    · exact absurd hlt (Nat.lt_asymm ((List.pairwise_cons.1 hqpost).1 x hpost))

/-! ## The encoder's failures -/

theorem encodePrepared_error {p : Jpeg.Prepared} {q : Nat} {e : GlitchError}
    (h : encodePrepared p q = .error e) :
    e = .encode (.invalidQuality q) ∨ ∃ r, e = .encode (.codec r) := by
  unfold encodePrepared at h
  split at h
  · cases h
    exact .inl rfl
  · split at h
    · cases h
    · cases h
      exact .inr ⟨_, rfl⟩

/-! ## One step of the search -/

def Overflows (enc : Nat → Outcome (List UInt8)) (maxBytes q : Nat) : Prop :=
  ∃ bs, enc q = .ok bs ∧ maxBytes < bs.length

section Search

variable {enc : Nat → Outcome (List UInt8)} {maxBytes : Nat}

theorem fitStep_error {q : Nat} {e : GlitchError} (sm : Option (Nat × Nat))
    (h : enc q = .error e) :
    fitStep enc maxBytes (.ok none, sm) q = (.error e, sm) := by
  simp [fitStep, h]

theorem fitStep_fits {q : Nat} {bs : List UInt8} (sm : Option (Nat × Nat))
    (h : enc q = .ok bs) (hfit : bs.length ≤ maxBytes) :
    fitStep enc maxBytes (.ok none, sm) q = (.ok (some (bs, q)), sm) := by
  simp [fitStep, h, hfit]

theorem foldl_fitStep_answered (qs : List Nat) {r : Outcome (Option (List UInt8 × Nat))}
    (hr : r ≠ .ok none) (sm : Option (Nat × Nat)) :
    qs.foldl (fitStep enc maxBytes) (r, sm) = (r, sm) := by
  have hstep : ∀ q, fitStep enc maxBytes (r, sm) q = (r, sm) := by
    intro q
    rcases r with e | (_ | a)
    · rfl
    · exact absurd rfl hr
    · rfl
  induction qs with
  | nil => rfl
  | cons q qs ih => rw [List.foldl_cons, hstep, ih]

theorem foldl_fitStep_overflow {pre : List Nat}
    (hpre : ∀ x ∈ pre, Overflows (enc) maxBytes x) (sm : Option (Nat × Nat)) :
    ∃ sm', pre.foldl (fitStep enc maxBytes) (.ok none, sm) = (.ok none, sm') := by
  induction pre generalizing sm with
  | nil => exact ⟨sm, rfl⟩
  | cons x xs ih =>
    obtain ⟨bs, henc, hbig⟩ := hpre x List.mem_cons_self
    have hstep : ∃ sm₁, fitStep enc maxBytes (.ok none, sm) x = (.ok none, sm₁) := by
      simp only [fitStep, henc, if_neg (Nat.not_le.2 hbig)]
      exact ⟨_, rfl⟩
    obtain ⟨sm₁, hsm₁⟩ := hstep
    rw [List.foldl_cons, hsm₁]
    exact ih (fun y hy => hpre y (List.mem_cons_of_mem _ hy)) sm₁

/-- What the search remembers after passing over the qualities `seen`: nothing when it saw none,
else the smallest size among them and the highest quality giving it. -/
def SmallestOf (enc : Nat → Outcome (List UInt8)) (seen : List Nat) : Option (Nat × Nat) → Prop
  | none => seen = []
  | some (size, q) => q ∈ seen ∧ (∃ bs, enc q = .ok bs ∧ bs.length = size) ∧
      ∀ q' ∈ seen, ∀ bs', enc q' = .ok bs' →
        size ≤ bs'.length ∧ (q < q' → size < bs'.length)

theorem SmallestOf.step {seen : List Nat} {sm : Option (Nat × Nat)} {q : Nat} {bs : List UInt8}
    (hs : SmallestOf enc seen sm) (hlt : ∀ q' ∈ seen, q < q') (henc : enc q = .ok bs)
    (hbig : maxBytes < bs.length) :
    ∃ sm', fitStep enc maxBytes (.ok none, sm) q = (.ok none, sm') ∧
      SmallestOf enc (seen ++ [q]) sm' := by
  have hnot : ¬ bs.length ≤ maxBytes := by omega
  -- the quality just encoded, met again among the seen ones, has the same bytes
  have hself : ∀ bs', enc q = .ok bs' → bs' = bs := by
    intro bs' h'
    rw [henc] at h'
    cases h'
    rfl
  cases sm with
  | none =>
    simp only [SmallestOf] at hs
    subst hs
    refine ⟨some (bs.length, q), by simp [fitStep, henc, hnot], by simp, ⟨bs, henc, rfl⟩, ?_⟩
    intro q' hq' bs' h'
    simp only [List.nil_append, List.mem_singleton] at hq'
    subst hq'
    rw [hself bs' h']
    exact ⟨le_rfl, fun h => absurd h (lt_irrefl _)⟩
  | some x =>
    obtain ⟨size, sq⟩ := x
    obtain ⟨hsq, hsz, hmin⟩ := hs
    by_cases hsmaller : bs.length < size
    · refine ⟨some (bs.length, q), by simp [fitStep, henc, hnot, hsmaller], by simp,
        ⟨bs, henc, rfl⟩, ?_⟩
      intro q' hq' bs' h'
      rcases List.mem_append.1 hq' with hq' | hq'
      · have := (hmin q' hq' bs' h').1
        exact ⟨by omega, fun _ => by omega⟩
      · simp only [List.mem_singleton] at hq'
        subst hq'
        rw [hself bs' h']
        exact ⟨le_rfl, fun h => absurd h (lt_irrefl _)⟩
    · refine ⟨some (size, sq), by simp [fitStep, henc, hnot, hsmaller],
        List.mem_append_left _ hsq, hsz, ?_⟩
      intro q' hq' bs' h'
      rcases List.mem_append.1 hq' with hq' | hq'
      · exact hmin q' hq' bs' h'
      · -- not smaller, and below the remembered quality
        simp only [List.mem_singleton] at hq'
        subst hq'
        rw [hself bs' h']
        exact ⟨by omega, fun h => absurd (hlt sq hsq) (Nat.lt_asymm h)⟩

theorem SmallestOf.run {xs : List Nat} (hover : ∀ x ∈ xs, Overflows (enc) maxBytes x)
    (hdesc : xs.Pairwise (· > ·)) {seen : List Nat} {sm : Option (Nat × Nat)}
    (hs : SmallestOf enc seen sm) (hlt : ∀ x ∈ xs, ∀ y ∈ seen, x < y) :
    ∃ sm', xs.foldl (fitStep enc maxBytes) (.ok none, sm) = (.ok none, sm') ∧
      SmallestOf enc (seen ++ xs) sm' := by
  induction xs generalizing seen sm with
  | nil => exact ⟨sm, rfl, by simpa using hs⟩
  | cons x xs ih =>
    obtain ⟨bs, henc, hbig⟩ := hover x List.mem_cons_self
    obtain ⟨sm₁, hstep, hs₁⟩ := hs.step (fun y hy => hlt x List.mem_cons_self y hy) henc hbig
    obtain ⟨hx, hdesc⟩ := List.pairwise_cons.1 hdesc
    have hlt₁ : ∀ z ∈ xs, ∀ y ∈ seen ++ [x], z < y := by
      intro z hz y hy
      rcases List.mem_append.1 hy with hy | hy
      · exact hlt z (List.mem_cons_of_mem _ hz) y hy
      · simp only [List.mem_singleton] at hy
        subst hy
        exact hx z hz
    obtain ⟨sm', hrun, hs'⟩ :=
      ih (fun y hy => hover y (List.mem_cons_of_mem _ hy)) hdesc hs₁ hlt₁
    exact ⟨sm', by rw [List.foldl_cons, hstep, hrun], by simpa using hs'⟩

end Search

/-! ## The whole search -/

theorem exists_first_not_overflow (enc : Nat → Outcome (List UInt8)) (maxBytes : Nat)
    (qs : List Nat) :
    (∀ x ∈ qs, Overflows enc maxBytes x) ∨
      ∃ pre q post, qs = pre ++ q :: post ∧ (∀ x ∈ pre, Overflows enc maxBytes x) ∧
        ¬ Overflows enc maxBytes q := by
  induction qs with
  | nil => exact .inl (by simp)
  | cons x xs ih =>
    by_cases hx : Overflows enc maxBytes x
    · rcases ih with hall | ⟨pre, q, post, rfl, hpre, hq⟩
      · exact .inl (List.forall_mem_cons.2 ⟨hx, hall⟩)
      · exact .inr ⟨x :: pre, q, post, rfl, List.forall_mem_cons.2 ⟨hx, hpre⟩, hq⟩
    · exact .inr ⟨[], x, xs, rfl, by simp, hx⟩

theorem not_overflows {enc : Nat → Outcome (List UInt8)} {maxBytes q : Nat}
    (h : ¬ Overflows enc maxBytes q) :
    (∃ e, enc q = .error e) ∨ ∃ bs, enc q = .ok bs ∧ bs.length ≤ maxBytes := by
  cases hq : enc q with
  | error e => exact .inl ⟨e, rfl⟩
  | ok bs => exact .inr ⟨bs, rfl, Nat.not_lt.1 fun hlt => h ⟨bs, hq, hlt⟩⟩

/-- The outcomes of the search over the ladder in its order: it stops at the first quality that
does not overflow, with that quality's error or bytes, or every quality overflows and the error
is the empty ladder's or names the smallest result. -/
theorem searchLadder_cases (enc : Nat → Outcome (List UInt8)) (maxBytes : Nat) (ladder : List Nat) :
    (∃ pre q post, ladderOrder ladder = pre ++ q :: post ∧
      (∀ x ∈ pre, Overflows enc maxBytes x) ∧ ¬ Overflows enc maxBytes q ∧
      ((∃ e, enc q = .error e ∧ searchLadder enc maxBytes ladder = .error e) ∨
       (∃ bs, enc q = .ok bs ∧ bs.length ≤ maxBytes ∧
          searchLadder enc maxBytes ladder = .ok (bs, q)))) ∨
    ((∀ x ∈ ladderOrder ladder, Overflows enc maxBytes x) ∧
      ((ladder = [] ∧ searchLadder enc maxBytes ladder = .error (.encode .emptyLadder)) ∨
       ∃ size q, SmallestOf enc (ladderOrder ladder) (some (size, q)) ∧
         searchLadder enc maxBytes ladder = .error (.encode (.overflow size q maxBytes)))) := by
  rcases exists_first_not_overflow enc maxBytes (ladderOrder ladder) with
    hall | ⟨pre, q, post, hcut, hpre, hq⟩
  · -- every quality overflows: the run keeps the record of the smallest
    obtain ⟨sm, hrun, hsm⟩ := SmallestOf.run hall (pairwise_ladderOrder ladder)
      (show SmallestOf enc [] none from rfl) (by simp)
    refine .inr ⟨hall, ?_⟩
    cases sm with
    | none =>
      have hfit : searchLadder enc maxBytes ladder = .error (.encode .emptyLadder) := by
        simp only [searchLadder]
        rw [hrun]
      refine .inl ⟨?_, hfit⟩
      simp only [SmallestOf, List.nil_append] at hsm
      exact List.eq_nil_iff_forall_not_mem.2 fun x hx => by
        simpa [hsm] using mem_ladderOrder.2 hx
    | some x =>
      obtain ⟨size, q⟩ := x
      have hfit : searchLadder enc maxBytes ladder = .error (.encode (.overflow size q maxBytes)) := by
        simp only [searchLadder]
        rw [hrun]
      exact .inr ⟨size, q, by simpa using hsm, hfit⟩
  · -- the search runs over the overflowing prefix and stops at `q`
    obtain ⟨sm, hrun⟩ := foldl_fitStep_overflow hpre none
    have hfold : ∀ r, r ≠ .ok none → fitStep enc maxBytes (.ok none, sm) q = (r, sm) →
        searchLadder enc maxBytes ladder = match r with
          | .error e => .error e
          | .ok (some r) => .ok r
          | .ok none => .error (.encode .emptyLadder) := by
      intro r hr hstep
      simp only [searchLadder]
      rw [hcut, List.foldl_append, hrun, List.foldl_cons, hstep, foldl_fitStep_answered _ hr]
      rcases r with e | (_ | a)
      · rfl
      · exact absurd rfl hr
      · rfl
    refine .inl ⟨pre, q, post, hcut, hpre, hq, ?_⟩
    rcases not_overflows hq with ⟨e, he⟩ | ⟨bs, hbs, hfit⟩
    · exact .inl ⟨e, he, hfold (.error e) (by simp) (fitStep_error sm he)⟩
    · exact .inr ⟨bs, hbs, hfit, hfold (.ok (some (bs, q))) (by simp) (fitStep_fits sm hbs hfit)⟩

section Ladder

variable {enc : Nat → Outcome (List UInt8)} {maxBytes : Nat} {ladder : List Nat}

/-- Cut the ladder's order at a quality after which only overflowing ones come: every ladder
quality above the cut overflows. -/
theorem overflows_of_cut {pre post : List Nat} {q : Nat}
    (hcut : ladderOrder ladder = pre ++ q :: post) (hpre : ∀ x ∈ pre, Overflows enc maxBytes x) :
    ∀ q' ∈ ladder, q < q' → Overflows enc maxBytes q' := by
  intro q' hq' hlt
  have hd := pairwise_ladderOrder ladder
  rw [hcut] at hd
  exact hpre q' ((mem_pre_iff_gt hd (hcut ▸ mem_ladderOrder.2 hq')).2 hlt)

/-- The search stops at only one quality: the ladder quality that does not overflow while every
higher one does. -/
theorem stop_unique {pre post : List Nat} {q₀ q : Nat}
    (hcut : ladderOrder ladder = pre ++ q₀ :: post) (hpre : ∀ x ∈ pre, Overflows enc maxBytes x)
    (hq₀ : ¬ Overflows enc maxBytes q₀) (hq : q ∈ ladder) (hqn : ¬ Overflows enc maxBytes q)
    (hhigher : ∀ q' ∈ ladder, q < q' → Overflows enc maxBytes q') : q₀ = q := by
  have hd := pairwise_ladderOrder ladder
  rw [hcut] at hd
  have hq₀mem : q₀ ∈ ladder := mem_ladderOrder.1 (by rw [hcut]; simp)
  have hqmem : q ∈ pre ++ q₀ :: post := hcut ▸ mem_ladderOrder.2 hq
  rcases lt_trichotomy q₀ q with hlt | heq | hgt
  · exact absurd (hpre q ((mem_pre_iff_gt hd hqmem).2 hlt)) hqn
  · exact heq
  · exact absurd (hhigher q₀ hq₀mem hgt) hq₀

end Ladder

section Outcomes

variable {enc : Nat → Outcome (List UInt8)} {maxBytes : Nat} {ladder : List Nat}

theorem searchLadder_congr {ladder' : List Nat} (h : ∀ q, q ∈ ladder' ↔ q ∈ ladder) :
    searchLadder enc maxBytes ladder' = searchLadder enc maxBytes ladder := by
  unfold searchLadder
  rw [ladderOrder_congr h]

theorem searchLadder_eq_ok_iff {bs : List UInt8} {q : Nat} :
    searchLadder enc maxBytes ladder = .ok (bs, q) ↔
      q ∈ ladder ∧ enc q = .ok bs ∧ bs.length ≤ maxBytes ∧
        ∀ q' ∈ ladder, q < q' → Overflows (enc) maxBytes q' := by
  constructor
  · intro h
    rcases searchLadder_cases enc maxBytes ladder with
      ⟨pre, q₀, post, hcut, hpre, -, ⟨e, -, he⟩ | ⟨bs₀, hbs₀, hfit, hok⟩⟩ |
        ⟨-, ⟨-, he⟩ | ⟨_, _, -, he⟩⟩
    · rw [he] at h
      cases h
    · rw [hok] at h
      cases h
      exact ⟨mem_ladderOrder.1 (by rw [hcut]; simp), hbs₀, hfit, overflows_of_cut hcut hpre⟩
    · rw [he] at h
      cases h
    · rw [he] at h
      cases h
  · rintro ⟨hq, hbs, hfit, hhigher⟩
    have hqn : ¬ Overflows (enc) maxBytes q := by
      rintro ⟨bs', h', hlt⟩
      rw [hbs] at h'
      cases h'
      omega
    rcases searchLadder_cases enc maxBytes ladder with
      ⟨pre, q₀, post, hcut, hpre, hq₀, hstop⟩ | ⟨hall, -⟩
    · obtain rfl := stop_unique hcut hpre hq₀ hq hqn hhigher
      rcases hstop with ⟨e, he, -⟩ | ⟨bs₀, hbs₀, -, hok⟩
      · rw [hbs] at he
        cases he
      · rw [hbs] at hbs₀
        cases hbs₀
        exact hok
    · exact absurd (hall q (mem_ladderOrder.2 hq)) hqn

theorem searchLadder_of_error {q : Nat} {e : GlitchError} (hq : q ∈ ladder)
    (he : enc q = .error e)
    (hhigher : ∀ q' ∈ ladder, q < q' → Overflows (enc) maxBytes q') :
    searchLadder enc maxBytes ladder = .error e := by
  have hqn : ¬ Overflows (enc) maxBytes q := by
    rintro ⟨bs', h', -⟩
    rw [he] at h'
    cases h'
  rcases searchLadder_cases enc maxBytes ladder with
    ⟨pre, q₀, post, hcut, hpre, hq₀, hstop⟩ | ⟨hall, -⟩
  · obtain rfl := stop_unique hcut hpre hq₀ hq hqn hhigher
    rcases hstop with ⟨e₀, he₀, herr⟩ | ⟨bs₀, hbs₀, -, -⟩
    · rw [he] at he₀
      cases he₀
      exact herr
    · rw [he] at hbs₀
      cases hbs₀
  · exact absurd (hall q (mem_ladderOrder.2 hq)) hqn

/-- When every quality overflows, the search names the smallest size and the highest quality
giving it. -/
theorem searchLadder_of_overflows (hne : ladder ≠ [])
    (hall : ∀ q ∈ ladder, Overflows (enc) maxBytes q) :
    ∃ q ∈ ladder, ∃ bs, enc q = .ok bs ∧ maxBytes < bs.length ∧
      searchLadder enc maxBytes ladder = .error (.encode (.overflow bs.length q maxBytes)) ∧
      ∀ q' ∈ ladder, ∀ bs', enc q' = .ok bs' →
        bs.length ≤ bs'.length ∧ (q < q' → bs.length < bs'.length) := by
  rcases searchLadder_cases enc maxBytes ladder with
    ⟨pre, q₀, post, hcut, -, hq₀, -⟩ |
      ⟨-, ⟨hnil, -⟩ | ⟨size, q, ⟨hq, ⟨bs, hbs, rfl⟩, hmin⟩, he⟩⟩
  · exact absurd (hall q₀ (mem_ladderOrder.1 (by rw [hcut]; simp))) hq₀
  · exact absurd hnil hne
  · have hqmem := mem_ladderOrder.1 hq
    obtain ⟨bs₁, hbs₁, hbig⟩ := hall q hqmem
    rw [hbs] at hbs₁
    cases hbs₁
    exact ⟨q, hqmem, bs, hbs, hbig, he, fun q' hq' => hmin q' (mem_ladderOrder.2 hq')⟩

/-- The empty ladder is reported for the empty ladder, and otherwise only as the encoder's own
error where the search stops. -/
theorem searchLadder_eq_emptyLadder_iff :
    searchLadder enc maxBytes ladder = .error (.encode .emptyLadder) ↔
      ladder = [] ∨ ∃ q ∈ ladder, enc q = .error (.encode .emptyLadder) ∧
        ∀ q' ∈ ladder, q < q' → Overflows enc maxBytes q' := by
  constructor
  · intro h
    rcases searchLadder_cases enc maxBytes ladder with
      ⟨pre, q, post, hcut, hpre, -, ⟨e, he, herr⟩ | ⟨_, -, -, hok⟩⟩ |
        ⟨-, ⟨hnil, -⟩ | ⟨_, _, -, hov⟩⟩
    · -- the search stopped at the encoder's error, which is the one reported
      rw [herr] at h
      cases h
      exact .inr ⟨q, mem_ladderOrder.1 (by rw [hcut]; simp), he, overflows_of_cut hcut hpre⟩
    · rw [hok] at h
      cases h
    · exact .inl hnil
    · rw [hov] at h
      cases h
  · rintro (rfl | ⟨q, hq, he, hhigher⟩)
    · simp [searchLadder, ladderOrder]
    · exact searchLadder_of_error hq he hhigher

end Outcomes

/-- JPEG encoding fails only with a quality out of range or inside the codec, never with the
search's own empty ladder. -/
theorem encodeFrame_ne_emptyLadder (f : Frame) (q : Nat) :
    encodeFrame f q ≠ .error (.encode .emptyLadder) := fun h => by
  rcases encodePrepared_error h with h | ⟨r, h⟩ <;> cases h

/-- The ladder search, for every encoder of qualities, from the highest ladder quality down. Its
answer depends only on the set of ladder values. It answers quality `q` and its bytes exactly
when `q` is on the ladder, fits the budget and every higher ladder quality overflowed; it answers
the encoder's error at the highest quality that does not overflow, when encoding there fails;
when every quality overflows it names the smallest size, above the budget, and the highest quality
giving it; and it reports an empty ladder for the empty ladder, and otherwise only when the
encoder reports one where the search stops. `encodeFit` is the search with the frame's JPEG
encoder, which never reports an empty ladder, so it does so exactly for the empty ladder. -/
theorem encodeFit_searches_ladder (enc : Nat → Outcome (List UInt8)) (maxBytes : Nat)
    (ladder : List Nat) :
    (∀ ladder', (∀ q, q ∈ ladder' ↔ q ∈ ladder) →
      searchLadder enc maxBytes ladder' = searchLadder enc maxBytes ladder) ∧
    (∀ bs q, searchLadder enc maxBytes ladder = .ok (bs, q) ↔
      q ∈ ladder ∧ enc q = .ok bs ∧ bs.length ≤ maxBytes ∧
        ∀ q' ∈ ladder, q < q' → Overflows enc maxBytes q') ∧
    (∀ q e, q ∈ ladder → enc q = .error e →
      (∀ q' ∈ ladder, q < q' → Overflows enc maxBytes q') →
      searchLadder enc maxBytes ladder = .error e) ∧
    (ladder ≠ [] → (∀ q ∈ ladder, Overflows enc maxBytes q) →
      ∃ q ∈ ladder, ∃ bs, enc q = .ok bs ∧ maxBytes < bs.length ∧
        searchLadder enc maxBytes ladder = .error (.encode (.overflow bs.length q maxBytes)) ∧
        ∀ q' ∈ ladder, ∀ bs', enc q' = .ok bs' →
          bs.length ≤ bs'.length ∧ (q < q' → bs.length < bs'.length)) ∧
    (searchLadder enc maxBytes ladder = .error (.encode .emptyLadder) ↔
      ladder = [] ∨ ∃ q ∈ ladder, enc q = .error (.encode .emptyLadder) ∧
        ∀ q' ∈ ladder, q < q' → Overflows enc maxBytes q') ∧
    ∀ f, encodeFit f maxBytes ladder = searchLadder (encodeFrame f) maxBytes ladder ∧
      (encodeFit f maxBytes ladder = .error (.encode .emptyLadder) ↔ ladder = []) := by
  refine ⟨fun _ h => searchLadder_congr h, fun _ _ => searchLadder_eq_ok_iff,
    fun _ _ hq he hhigher => searchLadder_of_error hq he hhigher, searchLadder_of_overflows,
    searchLadder_eq_emptyLadder_iff, fun f => ⟨rfl, ?_⟩⟩
  -- the JPEG encoder never reports an empty ladder, so only the empty ladder does
  have hframe : encodeFit f maxBytes ladder = searchLadder (encodeFrame f) maxBytes ladder := rfl
  rw [hframe, searchLadder_eq_emptyLadder_iff]
  exact or_iff_left fun ⟨q, _, he, _⟩ => encodeFrame_ne_emptyLadder f q he

end Glitch
