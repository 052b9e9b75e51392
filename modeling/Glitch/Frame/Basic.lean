/-!
Frames: RGBA images of `width * height` pixels stored row by row, with the pixel count fixed by
the type. The byte form of a frame is its pixels' red, green, blue and alpha bytes in order.
-/
namespace Glitch

/-- One pixel: red, green, blue and alpha bytes. -/
structure Pixel where
  r : UInt8
  g : UInt8
  b : UInt8
  a : UInt8
  deriving DecidableEq, Inhabited, Repr

namespace Pixel

def channels (p : Pixel) : List UInt8 := [p.r, p.g, p.b, p.a]

def channel (p : Pixel) : Nat → UInt8
  | 0 => p.r
  | 1 => p.g
  | 2 => p.b
  | _ => p.a

def setChannel (p : Pixel) (c : Nat) (v : UInt8) : Pixel :=
  match c with
  | 0 => { p with r := v }
  | 1 => { p with g := v }
  | 2 => { p with b := v }
  | _ => { p with a := v }

/-- The pixel with its three color channels mapped and alpha kept. -/
def mapColor (f : UInt8 → UInt8) (p : Pixel) : Pixel := ⟨f p.r, f p.g, f p.b, p.a⟩

def withGray (p : Pixel) (v : UInt8) : Pixel := ⟨v, v, v, p.a⟩

def ofList : List UInt8 → Pixel
  | [r, g, b, a] => ⟨r, g, b, a⟩
  | _ => ⟨0, 0, 0, 0⟩

@[simp] theorem mapColor_a (f : UInt8 → UInt8) (p : Pixel) : (p.mapColor f).a = p.a := rfl

@[simp] theorem withGray_a (p : Pixel) (v : UInt8) : (p.withGray v).a = p.a := rfl

end Pixel

variable {σ α β : Type}

/-- Map a list front to back, threading a state; `acc` holds the results so far, reversed. -/
def mapAccumFrom (g : σ → α → β × σ) : List β → σ → List α → List β × σ
  | acc, s, [] => (acc.reverse, s)
  | acc, s, x :: xs =>
    let r := g s x
    mapAccumFrom g (r.1 :: acc) r.2 xs

def mapAccum (g : σ → α → β × σ) (s : σ) (xs : List α) : List β × σ := mapAccumFrom g [] s xs

theorem length_mapAccumFrom (g : σ → α → β × σ) (acc : List β) (s : σ) (xs : List α) :
    (mapAccumFrom g acc s xs).1.length = acc.length + xs.length := by
  induction xs generalizing acc s with
  | nil => simp [mapAccumFrom]
  | cons x xs ih => simp [mapAccumFrom, ih]; omega

@[simp] theorem length_mapAccum (g : σ → α → β × σ) (s : σ) (xs : List α) :
    (mapAccum g s xs).1.length = xs.length := by
  simp [mapAccum, length_mapAccumFrom]

/-- Map a list, numbering its elements from `i`, by a map that may fail; it fails when the map
fails at any element. -/
def mapIdxFrom? (g : Nat → α → Option β) : Nat → List α → Option (List β)
  | _, [] => some []
  | i, x :: xs => (g i x).bind fun y => (mapIdxFrom? g (i + 1) xs).map (y :: ·)

theorem length_of_mapIdxFrom? {g : Nat → α → Option β} :
    ∀ {i : Nat} {xs : List α} {ys : List β}, mapIdxFrom? g i xs = some ys → ys.length = xs.length
  | _, [], _, h => by
    cases h
    rfl
  | _, _ :: _, _, h => by
    simp only [mapIdxFrom?, Option.bind_eq_some_iff, Option.map_eq_some_iff] at h
    obtain ⟨_, -, _, hys, rfl⟩ := h
    simp [length_of_mapIdxFrom? hys]

/-- Where the map succeeds at every element, the indexed map succeeds with its values. -/
theorem mapIdxFrom?_eq_some {g : Nat → α → Option β} {G : Nat → α → β} :
    ∀ {i : Nat} {xs : List α}, (∀ k, k < i + xs.length → ∀ x, g k x = some (G k x)) →
      mapIdxFrom? g i xs = some (xs.mapIdx fun k x => G (i + k) x)
  | _, [], _ => rfl
  | i, x :: xs, h => by
    have hx := h i (by simp) x
    have hxs : mapIdxFrom? g (i + 1) xs = some _ :=
      mapIdxFrom?_eq_some fun k hk => h k (by simp; omega)
    simp only [mapIdxFrom?, hx, hxs, List.mapIdx_cons, Nat.add_zero, Option.bind_some,
      Option.map_some, Nat.add_assoc, Nat.add_comm 1]

/-- An RGBA image of `width * height` pixels, row by row. -/
structure Frame where
  width : Nat
  height : Nat
  pixels : Array Pixel
  size_eq : pixels.size = width * height

namespace Frame

instance : DecidableEq Frame := fun f g =>
  if h : f.width = g.width ∧ f.height = g.height ∧ f.pixels = g.pixels then
    isTrue (by
      cases f; cases g
      obtain ⟨h1, h2, h3⟩ := h
      subst h1 h2 h3
      rfl)
  else isFalse (by
    intro e
    subst e
    exact h ⟨rfl, rfl, rfl⟩)

def dims (f : Frame) : Nat × Nat := (f.width, f.height)

def filled (w h : Nat) (p : Pixel) : Frame :=
  ⟨w, h, Array.replicate (w * h) p, by simp⟩

def transparent (w h : Nat) : Frame := filled w h ⟨0, 0, 0, 0⟩

def ofFn (w h : Nat) (g : Nat → Pixel) : Frame :=
  ⟨w, h, Array.ofFn (fun (i : Fin (w * h)) => g i.val), by simp⟩

def pixelOfBytes (bytes : Array UInt8) (i : Nat) : Pixel :=
  ⟨bytes.getD (4 * i) 0, bytes.getD (4 * i + 1) 0, bytes.getD (4 * i + 2) 0, bytes.getD (4 * i + 3) 0⟩

/-- The frame whose byte form starts with `bytes`; `none` when there are fewer than
`4 * w * h` bytes. Bytes past the frame are ignored. -/
def ofBytes? (w h : Nat) (bytes : Array UInt8) : Option Frame :=
  if w * h * 4 ≤ bytes.size then some (ofFn w h (pixelOfBytes bytes)) else none

/-- The byte form: each pixel's red, green, blue and alpha in turn. -/
def bytes (f : Frame) : Array UInt8 :=
  f.pixels.foldl (fun acc p => acc.push p.r |>.push p.g |>.push p.b |>.push p.a) #[]

/-- The pixel at column `x` and row `y`, if inside the frame: the read of the effects, which stop
at a read outside it. -/
def get? (f : Frame) (x y : Nat) : Option Pixel :=
  if x < f.width ∧ y < f.height then f.pixels[y * f.width + x]? else none

/-- The pixel at column `x` and row `y` as a total read, transparent black outside the frame: for
statements about frames and for reads clamped to the edges of a frame with pixels. -/
def pixelAt (f : Frame) (x y : Nat) : Pixel := (f.get? x y).getD ⟨0, 0, 0, 0⟩

/-- The frame with the pixel at `x`, `y` replaced; unchanged outside the frame. -/
def set (f : Frame) (x y : Nat) (p : Pixel) : Frame :=
  if x < f.width ∧ y < f.height then
    ⟨f.width, f.height, f.pixels.setIfInBounds (y * f.width + x) p, by simp [f.size_eq]⟩
  else f

def map (g : Pixel → Pixel) (f : Frame) : Frame :=
  ⟨f.width, f.height, f.pixels.map g, by simp [f.size_eq]⟩

def mapXY (g : Nat → Nat → Pixel → Pixel) (f : Frame) : Frame :=
  ⟨f.width, f.height, f.pixels.mapIdx (fun i p => g (i % f.width) (i / f.width) p),
    by simp [f.size_eq]⟩

/-- Every pixel mapped, knowing its column and row, by a map that may fail; `none` when it fails
at some pixel. -/
def mapXY? (g : Nat → Nat → Pixel → Option Pixel) (f : Frame) : Option Frame :=
  match h : mapIdxFrom? (fun i p => g (i % f.width) (i / f.width) p) 0 f.pixels.toList with
  | some ps => some ⟨f.width, f.height, ps.toArray, by simp [length_of_mapIdxFrom? h, f.size_eq]⟩
  | none => none

def row (f : Frame) (y : Nat) : Array Pixel := f.pixels.extract (y * f.width) (y * f.width + f.width)

def setIndex (f : Frame) (i : Nat) (p : Pixel) : Frame :=
  ⟨f.width, f.height, f.pixels.setIfInBounds i p, by simp [f.size_eq]⟩

def pixel (f : Frame) (i : Nat) : Pixel := f.pixels.getD i ⟨0, 0, 0, 0⟩

/-- Pixels of two frames combined position by position; the first frame's size is kept and
missing pixels of the second read as transparent black. -/
def zipWith (g : Pixel → Pixel → Pixel) (f f' : Frame) : Frame :=
  ⟨f.width, f.height, f.pixels.mapIdx (fun i p => g p (f'.pixel i)), by simp [f.size_eq]⟩

def mapAccum (g : σ → Pixel → Pixel × σ) (s : σ) (f : Frame) : Frame × σ :=
  let r := Glitch.mapAccum g s f.pixels.toList
  (⟨f.width, f.height, r.1.toArray, by simp [r, f.size_eq]⟩, r.2)

/-- The test pattern number `k`: pixel `(x, y)` is computed from `x`, `y` and `k` modulo 256. -/
def pattern (k w h : Nat) : Frame :=
  ofFn w h fun i =>
    let x := i % w % 256
    let y := i / w % 256
    let k := k % 256
    ⟨(37 * x + 11 * y + 53 * k) % 256 |>.toUInt8,
     (5 * x + 71 * y + 13 * k + 40) % 256 |>.toUInt8,
     ((x ^^^ y) * 29 + 7 * k + 90) % 256 |>.toUInt8,
     (200 + x + 3 * y + k) % 256 |>.toUInt8⟩

@[simp] theorem map_width (g : Pixel → Pixel) (f : Frame) : (f.map g).width = f.width := rfl
@[simp] theorem map_height (g : Pixel → Pixel) (f : Frame) : (f.map g).height = f.height := rfl
@[simp] theorem mapXY_width (g : Nat → Nat → Pixel → Pixel) (f : Frame) : (f.mapXY g).width = f.width := rfl
@[simp] theorem mapXY_height (g : Nat → Nat → Pixel → Pixel) (f : Frame) : (f.mapXY g).height = f.height := rfl
@[simp] theorem setIndex_width (f : Frame) (i : Nat) (p : Pixel) : (f.setIndex i p).width = f.width := rfl
@[simp] theorem setIndex_height (f : Frame) (i : Nat) (p : Pixel) : (f.setIndex i p).height = f.height := rfl

theorem pixel_index_lt (f : Frame) {x y : Nat} (hx : x < f.width) (hy : y < f.height) :
    y * f.width + x < f.pixels.size := by
  rw [f.size_eq]
  calc y * f.width + x < (y + 1) * f.width := by rw [Nat.succ_mul]; omega
    _ ≤ f.height * f.width := Nat.mul_le_mul_right _ hy
    _ = f.width * f.height := Nat.mul_comm _ _

theorem get?_of_lt (f : Frame) {x y : Nat} (hx : x < f.width) (hy : y < f.height) :
    f.get? x y = some (f.pixelAt x y) := by
  have hi := f.pixel_index_lt hx hy
  simp [pixelAt, get?, hx, hy, hi]

/-- Pixel number `i` stands at column `i % width` of row `i / width`, both inside the frame. -/
theorem index_lt_of_lt (f : Frame) {i : Nat} (hi : i < f.width * f.height) :
    i % f.width < f.width ∧ i / f.width < f.height := by
  have hpos : 0 < f.width := Nat.pos_of_ne_zero fun h0 => by simp [h0] at hi
  exact ⟨Nat.mod_lt _ hpos, (Nat.div_lt_iff_lt_mul hpos).2 (by rwa [Nat.mul_comm])⟩

/-- Where the map succeeds at every pixel inside the frame, the map over the frame succeeds with
the values it gives. -/
theorem mapXY?_eq_some {g : Nat → Nat → Pixel → Option Pixel} {g' : Nat → Nat → Pixel → Pixel}
    {f : Frame} (h : ∀ x y p, x < f.width → y < f.height → g x y p = some (g' x y p)) :
    f.mapXY? g = some (f.mapXY g') := by
  have hall : ∀ k, k < 0 + f.pixels.toList.length → ∀ p,
      g (k % f.width) (k / f.width) p = some (g' (k % f.width) (k / f.width) p) := by
    intro k hk p
    rw [Nat.zero_add, Array.length_toList, f.size_eq] at hk
    exact h _ _ p (f.index_lt_of_lt hk).1 (f.index_lt_of_lt hk).2
  unfold mapXY?
  split
  · rename_i ps hps
    rw [mapIdxFrom?_eq_some hall, Option.some.injEq] at hps
    subst hps
    simp only [mapXY, Option.some.injEq, Frame.mk.injEq, true_and]
    apply Array.toList_inj.1
    simp [Array.toList_mapIdx]
  · rename_i hnone
    rw [mapIdxFrom?_eq_some hall] at hnone
    cases hnone

end Frame

end Glitch
