import Raster.Proofs.Cache

set_option autoImplicit false

/-!
# Shaded variants stay current

A cache keeps darkened variants of its images by key and divisor, and serves a stored variant
without shading again. That is only right if every stored variant is still the shade of the image
now cached under its key. `VariantsCurrent c` says so: every variant has a divisor of at least
two, its key is cached, and it is that image darkened by that divisor.

Each call keeps the invariant (`VariantsCurrent.apply`): a load only adds a key that had no
variants, shading stores the shade of the image it read, and invalidation drops a key's variants
together with the key. So every cache a history of calls builds from the empty one satisfies it
(`variantsCurrent_replay`).

With the invariant, shading is a function of the cached image alone (`shade_of_two_le`): a stored
variant is exactly what shading again would give. The main result, `shaded_variants_stay_current`,
puts this together, and concludes that once a key has been dropped, by invalidation or by
clearing, and loaded again, its variants are those of the new image.
-/

namespace Raster

namespace ImageCache

/-! ## Looking variants up -/

/-- What a lookup finds is an entry of the list. -/
theorem mem_of_lookup_eq_some {α β : Type} [BEq α] [LawfulBEq α] {l : List (α × β)} {a : α}
    {b : β} (h : l.lookup a = some b) : (a, b) ∈ l := by
  induction l with
  | nil => cases h
  | cons p l ih =>
    obtain ⟨a', b'⟩ := p
    by_cases ha : a = a'
    · subst ha
      rw [List.lookup_cons, beq_self_eq_true] at h
      cases h
      exact List.mem_cons_self
    · have hne : (a == a') = false := beq_eq_false_iff_ne.mpr ha
      rw [List.lookup_cons, hne] at h
      exact List.mem_cons_of_mem _ (ih h)

/-! ## The invariant -/

/-- **Every shaded variant is current**: its divisor is at least two, its key is cached, and it is
the image cached under that key darkened by that divisor. -/
def VariantsCurrent (c : ImageCache) : Prop :=
  ∀ k d v, ((k, d), v) ∈ c.shaded → 2 ≤ d ∧ ∃ base, c.get? k = some base ∧ base.shade d = .ok v

namespace VariantsCurrent

variable {c : ImageCache}

theorem empty : VariantsCurrent {} := by
  intro k d v h
  cases h

/-- Variants stay current when they are kept and every cached image stays cached. -/
theorem of_images {c' : ImageCache} (hc : VariantsCurrent c) (hshaded : c'.shaded = c.shaded)
    (himages : ∀ k base, c.get? k = some base → c'.get? k = some base) : VariantsCurrent c' := by
  intro k d v hv
  rw [hshaded] at hv
  obtain ⟨hd, base, hbase, hshade⟩ := hc k d v hv
  exact ⟨hd, base, himages k base hbase, hshade⟩

/-- A loading lookup keeps the variants current: on a miss it caches a key that was not cached,
so no variant's key changes its image. -/
theorem getOrInsertWith (hc : VariantsCurrent c) (key : String)
    (load : Unit → Except Error Surface) : VariantsCurrent (c.getOrInsertWith key load).2 := by
  cases hkey : c.get? key with
  | some s => simpa only [ImageCache.getOrInsertWith, hkey] using hc
  | none =>
    cases hload : load () with
    | error e => simpa only [ImageCache.getOrInsertWith, hkey, hload] using hc
    | ok v =>
      simp only [ImageCache.getOrInsertWith, hkey, hload]
      refine hc.of_images rfl fun k base hbase => ?_
      -- a cached key is not the missing one, so appending leaves its image alone
      have hne : k ≠ key := by
        rintro rfl
        rw [hkey] at hbase
        cases hbase
      show (c.images ++ [(key, v)]).lookup k = some base
      rw [lookup_append_singleton hkey, if_neg hne]
      exact hbase

/-- **Shading keeps the variants current**: a new variant is the shade of the image it read. -/
theorem shade (hc : VariantsCurrent c) (key : String) (divisor : Nat) :
    VariantsCurrent (c.shade key divisor).2 := by
  unfold ImageCache.shade
  cases hkey : c.get? key with
  | none => exact hc
  | some base =>
    by_cases hd : divisor ≤ 1
    · simpa only [if_pos hd] using hc
    · simp only [if_neg hd]
      cases c.shaded.lookup (key, divisor) with
      | some s => exact hc
      | none =>
        cases hshade : base.shade divisor with
        | error e => exact hc
        | ok s =>
          intro k d v hv
          rcases List.mem_append.mp hv with hv | hv
          · exact hc k d v hv
          · -- the new entry is the shade just computed
            obtain ⟨⟨rfl, rfl⟩, rfl⟩ := Prod.mk.inj (List.mem_singleton.mp hv)
            exact ⟨by omega, base, hkey, hshade⟩

/-- Invalidation drops a key with all of its variants; every other key keeps its image. -/
theorem invalidate (hc : VariantsCurrent c) (key : String) :
    VariantsCurrent (c.invalidate key).2 := by
  intro k d v hv
  have hmem := List.mem_filter.mp hv
  have hne : k ≠ key := by simpa using hmem.2
  obtain ⟨hd, base, hbase, hshade⟩ := hc k d v hmem.1
  refine ⟨hd, base, ?_, hshade⟩
  show (c.images.filter (·.1 != key)).lookup k = some base
  rw [lookup_filter_ne, if_neg hne]
  exact hbase

theorem clear (c : ImageCache) : VariantsCurrent c.clear :=
  empty

/-- **One call keeps the variants current.** -/
theorem apply (hc : VariantsCurrent c) (call : CacheCall) : VariantsCurrent (call.apply c) := by
  cases call with
  | load k o => exact hc.getOrInsertWith k _
  | loadFitted k w h o => exact hc.getOrInsertWith k _
  | shade k d => exact hc.shade k d
  | invalidate k => exact hc.invalidate k
  | clear => exact VariantsCurrent.clear c

end VariantsCurrent

/-- **Every history keeps the variants current**, by induction on the history from any cache
whose variants are current. -/
theorem variantsCurrent_foldl (calls : List CacheCall) :
    ∀ c : ImageCache, VariantsCurrent c →
      VariantsCurrent (calls.foldl (fun c call => call.apply c) c) := by
  induction calls with
  | nil => exact fun _ hc => hc
  | cons call calls ih =>
    intro c hc
    exact ih _ (hc.apply call)

theorem variantsCurrent_replay (calls : List CacheCall) : VariantsCurrent (replay calls) :=
  variantsCurrent_foldl calls {} VariantsCurrent.empty

/-! ## What shading gives -/

variable {c : ImageCache} {key : String} {divisor : Nat} {base : Surface}

theorem shade_of_get?_none (h : c.get? key = none) (divisor : Nat) :
    c.shade key divisor = (.ok none, c) := by
  simp only [ImageCache.shade, h]

theorem shade_of_le_one (h : c.get? key = some base) (hd : divisor ≤ 1) :
    c.shade key divisor = (.ok (some base), c) := by
  simp only [ImageCache.shade, h, if_pos hd]

/-- Shading a cached key never finds nothing. -/
theorem shade_ne_none (h : c.get? key = some base) : (c.shade key divisor).1 ≠ .ok none := by
  unfold ImageCache.shade
  rw [h]
  dsimp only
  split
  · simp
  · split
    · simp
    · split <;> simp

/-- **Shading by a divisor of at least two gives the shade of the cached image**, whether the
variant was stored or is computed now; a failed shade leaves the cache as it was. -/
theorem shade_of_two_le (hc : VariantsCurrent c) (h : c.get? key = some base) (hd : 2 ≤ divisor) :
    match base.shade divisor with
    | .ok s => (c.shade key divisor).1 = .ok (some s)
    | .error e => c.shade key divisor = (.error e, c) := by
  unfold ImageCache.shade
  rw [h]
  dsimp only
  rw [if_neg (by omega)]
  cases hstored : c.shaded.lookup (key, divisor) with
  | some s =>
    -- a stored variant is the shade of the image now cached under its key
    obtain ⟨-, base', hbase', hshade⟩ := hc key divisor s (mem_of_lookup_eq_some hstored)
    rw [h, Option.some.injEq] at hbase'
    subst hbase'
    rw [hshade]
  | none =>
    dsimp only
    cases base.shade divisor <;> rfl

/-- A key that was just dropped, by invalidation or by clearing, is not cached. -/
theorem get?_dropped (c : ImageCache) (key : String) :
    ∀ drop ∈ [CacheCall.invalidate key, .clear], (drop.apply c).get? key = none := by
  intro drop hdrop
  rcases List.mem_pair.mp hdrop with rfl | rfl
  · show (c.images.filter (·.1 != key)).lookup key = none
    rw [lookup_filter_ne, if_pos rfl]
  · rfl

/-- A load under a key that is not cached caches what it loads. -/
theorem get?_load_miss (h : c.get? key = none) (v : Surface) :
    ((CacheCall.load key (.ok v)).apply c).get? key = some v := by
  simp only [CacheCall.apply, ImageCache.getOrInsertWith, h]
  show (c.images ++ [(key, v)]).lookup key = some v
  rw [lookup_append_singleton h, if_pos rfl]

/-- **Shaded variants stay current.** After every history of loads, fitted loads, shading,
invalidation and clearing from the empty cache, every stored variant has a divisor of at least two
and is the shade of the image now cached under its key. Wherever that holds, shading finds nothing
exactly when the key is not cached, gives the cached image itself for a divisor of at most one,
and otherwise gives exactly what shading the cached image gives, leaving the cache as it was when
that fails. So a key dropped by invalidation or clearing and then loaded again is shaded from the
new image. -/
theorem shaded_variants_stay_current :
    (∀ calls, VariantsCurrent (replay calls)) ∧
    (∀ c : ImageCache, VariantsCurrent c → ∀ key divisor,
      ((c.shade key divisor).1 = .ok none ↔ c.get? key = none) ∧
      (∀ base, c.get? key = some base → divisor ≤ 1 →
        c.shade key divisor = (.ok (some base), c)) ∧
      (∀ base, c.get? key = some base → 2 ≤ divisor →
        (∀ s, base.shade divisor = .ok s → (c.shade key divisor).1 = .ok (some s)) ∧
        (∀ e, base.shade divisor = .error e → c.shade key divisor = (.error e, c)))) ∧
    (∀ calls key divisor v, 2 ≤ divisor → ∀ drop ∈ [CacheCall.invalidate key, .clear],
      ((replay (calls ++ [drop, .load key (.ok v)])).shade key divisor).1 =
        (v.shade divisor).map some) := by
  refine ⟨variantsCurrent_replay, fun c hc key divisor => ⟨?_, ?_, ?_⟩, ?_⟩
  · constructor
    · intro hnone
      cases h : c.get? key with
      | none => rfl
      | some base => exact absurd hnone (shade_ne_none h)
    · intro h
      rw [shade_of_get?_none h]
  · intro base h hd
    exact shade_of_le_one h hd
  · intro base h hd
    have hspec := shade_of_two_le hc h hd
    refine ⟨fun s hs => ?_, fun e he => ?_⟩
    · rw [hs] at hspec
      exact hspec
    · rw [he] at hspec
      exact hspec
  · intro calls key divisor v hd drop hdrop
    -- the history ends by dropping the key and loading it again
    have hrun : replay (calls ++ [drop, .load key (.ok v)]) =
        (CacheCall.load key (.ok v)).apply (drop.apply (replay calls)) := by
      simp only [replay, List.foldl_append, List.foldl_cons, List.foldl_nil]
    have hcached := get?_load_miss (get?_dropped (replay calls) key drop hdrop) v
    have hspec := shade_of_two_le (variantsCurrent_replay (calls ++ [drop, .load key (.ok v)]))
      (hrun ▸ hcached) hd
    cases hs : v.shade divisor with
    | ok s =>
      rw [hs] at hspec
      exact hspec
    | error e =>
      rw [hs] at hspec
      rw [hspec]
      rfl

/-- Shading an image, invalidating it and loading another under the same key: the second shade
is taken from the new image. -/
theorem shaded_variants_stay_current_reloaded :
    2 ≤ 2 ∧ CacheCall.invalidate "bg" ∈ [CacheCall.invalidate "bg", .clear] ∧
    ((replay [.load "bg" (.ok ⟨1, 1, .rgb565Le, ⟨#[255, 255]⟩, none⟩), .shade "bg" 2,
        .invalidate "bg", .load "bg" (.ok ⟨1, 1, .rgb565Le, ⟨#[0, 0]⟩, none⟩)]).shade "bg" 2).1 =
      (Surface.shade ⟨1, 1, .rgb565Le, ⟨#[0, 0]⟩, none⟩ 2).map some :=
  ⟨by decide, List.mem_cons_self,
    shaded_variants_stay_current.2.2
      [.load "bg" (.ok ⟨1, 1, .rgb565Le, ⟨#[255, 255]⟩, none⟩), .shade "bg" 2] "bg" 2
      ⟨1, 1, .rgb565Le, ⟨#[0, 0]⟩, none⟩ (by decide) _ List.mem_cons_self⟩

end ImageCache

end Raster
