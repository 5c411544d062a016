import Raster.Cache
import Raster.Proofs.Buffer

set_option autoImplicit false

/-!
# The image cache is a finite map

Seen through its lookups, an image cache is a finite map from keys to images: `Models c m` says
that the cache `c` keys its images without repeats and that looking a key up in `c` finds what
the map `m` holds there. The shaded variants are not part of the map.

Every call keeps that relation with the map changed as a map changes (`Models.insert`,
`Models.invalidate`, `Models.apply`), so it holds after any history of calls that starts from the
empty cache and the empty map (`models_replay`). The main result, `cache_refines_finite_map`,
says so and says what each call returns there: a lookup gives the map's image, a loading lookup
runs its loader exactly when the key is missing and caches only what loads, invalidation tells
whether the key was there, and the cache's size is the number of keys of the map.
-/

namespace Raster

namespace ImageCache

/-- The finite map a cache stands for. -/
abbrev ImageMap := Finmap fun _ : String => Surface

/-! ## Lookups in the list of images -/

theorem lookup_cons_pair (l : List (String × Surface)) (key k : String) (v : Surface) :
    ((key, v) :: l).lookup k = if k = key then some v else l.lookup k := by
  by_cases hk : k = key
  · subst hk
    simp
  · have hne : (k == key) = false := by simpa using hk
    rw [List.lookup_cons, hne, if_neg hk]

/-- An image appended under a key the list does not have is found under that key only. -/
theorem lookup_append_singleton {l : List (String × Surface)} {key k : String} {v : Surface}
    (h : l.lookup key = none) :
    (l ++ [(key, v)]).lookup k = if k = key then some v else l.lookup k := by
  rw [List.lookup_append, lookup_cons_pair, List.lookup_nil]
  by_cases hk : k = key
  · subst hk
    simp [h]
  · simp [hk]

/-- Filtering a key out of the list makes it missing and leaves every other key alone. -/
theorem lookup_filter_ne (l : List (String × Surface)) (key k : String) :
    (l.filter (·.1 != key)).lookup k = if k = key then none else l.lookup k := by
  induction l with
  | nil => simp
  | cons p l ih =>
    obtain ⟨k', v⟩ := p
    by_cases hk' : k' = key
    · subst hk'
      rw [List.filter_cons_of_neg (by simp), ih, lookup_cons_pair]
      by_cases hk : k = k' <;> simp [hk]
    · rw [List.filter_cons_of_pos (by simpa using hk'), lookup_cons_pair, lookup_cons_pair, ih]
      by_cases hk : k = k'
      · subst hk
        simp [hk']
      · simp [hk]

theorem lookup_isSome_iff_mem {l : List (String × Surface)} {k : String} :
    (l.lookup k).isSome ↔ k ∈ l.map Prod.fst := by
  simp [List.lookup_isSome_iff]

/-! ## The relation between a cache and a map -/

/-- **A cache stands for the finite map `m`**: its images are keyed without repeats, and looking
a key up finds what `m` holds there. -/
structure Models (c : ImageCache) (m : ImageMap) : Prop where
  nodup : (c.images.map Prod.fst).Nodup
  get?_eq : ∀ k, c.get? k = m.lookup k

theorem models_empty : Models {} ∅ :=
  ⟨List.nodup_nil, fun k => by rw [Finmap.lookup_empty]; rfl⟩

namespace Models

variable {c : ImageCache} {m : ImageMap}

theorem mem_iff (hm : Models c m) (k : String) : k ∈ m ↔ k ∈ c.images.map Prod.fst := by
  rw [← Finmap.lookup_isSome, ← hm.get?_eq, get?, lookup_isSome_iff_mem]

/-- The cache holds as many images as the map has keys. -/
theorem size_eq (hm : Models c m) : c.size = m.keys.card := by
  have hkeys : m.keys = (c.images.map Prod.fst).toFinset := by
    ext k
    rw [Finmap.mem_keys, hm.mem_iff, List.mem_toFinset]
  rw [hkeys, List.toFinset_card_of_nodup hm.nodup, List.length_map, size]

theorem isEmpty_iff (hm : Models c m) : c.isEmpty = true ↔ m = ∅ := by
  constructor
  · intro h
    have himg : c.images = [] := List.isEmpty_iff.mp h
    apply Finmap.ext_lookup
    intro k
    rw [← hm.get?_eq, Finmap.lookup_empty, get?, himg, List.lookup_nil]
  · intro h
    cases himg : c.images with
    | nil => simp [isEmpty, himg]
    | cons p l =>
      -- the first image's key would be found in the empty map
      have hfirst := hm.get?_eq p.1
      rw [h, Finmap.lookup_empty, get?, himg, lookup_cons_pair, if_pos rfl] at hfirst
      cases hfirst

/-! ## One call -/

/-- On a hit, a loading lookup gives the cached image without loading and changes nothing. -/
theorem getOrInsertWith_hit (hm : Models c m) {k : String} {v : Surface}
    (hv : m.lookup k = some v) (load : Unit → Except Error Surface) :
    c.getOrInsertWith k load = (⟨.ok v, false⟩, c) := by
  rw [getOrInsertWith, hm.get?_eq, hv]

theorem getOrInsertWith_miss (hm : Models c m) {k : String} (hk : k ∉ m)
    (load : Unit → Except Error Surface) :
    c.getOrInsertWith k load =
      match load () with
      | .ok v => (⟨.ok v, true⟩, { c with images := c.images ++ [(k, v)] })
      | .error e => (⟨.error e, true⟩, c) := by
  cases hl : load () <;>
    simp only [getOrInsertWith, hm.get?_eq, Finmap.lookup_eq_none.mpr hk, hl]

/-- A loading lookup runs its loader exactly when the key is missing. -/
theorem loaded_getOrInsertWith (hm : Models c m) (k : String)
    (load : Unit → Except Error Surface) :
    (c.getOrInsertWith k load).1.loaded = decide (k ∉ m) := by
  by_cases hk : k ∈ m
  · obtain ⟨v, hv⟩ := Finmap.mem_iff.mp hk
    rw [hm.getOrInsertWith_hit hv, decide_eq_false (not_not_intro hk)]
  · rw [hm.getOrInsertWith_miss hk, decide_eq_true hk]
    cases load () <;> rfl

/-- **Caching a loaded image under a missing key inserts it into the map.** -/
theorem insert (hm : Models c m) {k : String} (hk : k ∉ m) (v : Surface) :
    Models { c with images := c.images ++ [(k, v)] } (m.insert k v) := by
  have hnone : c.images.lookup k = none := by
    rw [← get?, hm.get?_eq, Finmap.lookup_eq_none.mpr hk]
  constructor
  · rw [List.map_append, List.nodup_append]
    refine ⟨hm.nodup, List.nodup_singleton _, ?_⟩
    intro a ha b hb hab
    rw [List.map_singleton, List.mem_singleton] at hb
    subst hab hb
    exact hk ((hm.mem_iff _).mpr ha)
  · intro k'
    show (c.images ++ [(k, v)]).lookup k' = _
    rw [lookup_append_singleton hnone]
    by_cases hk' : k' = k
    · rw [if_pos hk', hk', Finmap.lookup_insert]
    · rw [if_neg hk', Finmap.lookup_insert_of_ne _ hk', ← get?, hm.get?_eq]

/-- Shading never touches the images. -/
theorem images_shade (c : ImageCache) (k : String) (d : Nat) :
    (c.shade k d).2.images = c.images := by
  unfold shade
  split
  · rfl
  · split
    · rfl
    · split
      · rfl
      · split <;> rfl

theorem shade (hm : Models c m) (k : String) (d : Nat) : Models (c.shade k d).2 m := by
  have himg := images_shade c k d
  exact ⟨himg ▸ hm.nodup, fun k' => by rw [get?, himg, ← get?, hm.get?_eq]⟩

/-- **Invalidating a key erases it from the map**, and tells whether it was there. -/
theorem invalidate (hm : Models c m) (k : String) :
    (c.invalidate k).1 = decide (k ∈ m) ∧ Models (c.invalidate k).2 (m.erase k) := by
  refine ⟨?_, ⟨?_, fun k' => ?_⟩⟩
  · show (c.get? k).isSome = _
    rw [hm.get?_eq, Bool.eq_iff_iff, Finmap.lookup_isSome, decide_eq_true_iff]
  · exact hm.nodup.sublist ((List.filter_sublist).map Prod.fst)
  · show (c.images.filter (·.1 != k)).lookup k' = _
    rw [lookup_filter_ne]
    by_cases hk' : k' = k
    · rw [if_pos hk', hk', Finmap.lookup_erase]
    · rw [if_neg hk', Finmap.lookup_erase_ne hk', ← get?, hm.get?_eq]

theorem clear (c : ImageCache) : Models c.clear ∅ :=
  models_empty

end Models

/-! ## Every history of calls -/

/-- A call that can change a cache, with what its loader gives if it runs. -/
inductive CacheCall where
  | load (key : String) (outcome : Except Error Surface)
  | loadFitted (key : String) (width height : Nat) (outcome : Except Error Surface)
  | shade (key : String) (divisor : Nat)
  | invalidate (key : String)
  | clear

namespace CacheCall

/-- The cache after the call. -/
def apply : CacheCall → ImageCache → ImageCache
  | .load k o, c => (c.getOrInsertWith k fun _ => o).2
  | .loadFitted k w h o, c => (c.getOrInsertFitted k w h fun _ => o).2
  | .shade k d, c => (c.shade k d).2
  | .invalidate k, c => (c.invalidate k).2
  | .clear, c => c.clear

/-- What the call does to the finite map: a load under a missing key inserts what it loads (a
fitted load, the fitted image), invalidation erases the key, clearing empties the map, and
shading leaves it alone. -/
def onMap : CacheCall → ImageMap → ImageMap
  | .load k o, m =>
    if k ∈ m then m else match o with
      | .ok v => m.insert k v
      | .error _ => m
  | .loadFitted k w h o, m =>
    if k ∈ m then m else match o with
      | .ok v => m.insert k (fit w h v)
      | .error _ => m
  | .shade _ _, m => m
  | .invalidate k, m => m.erase k
  | .clear, _ => ∅

end CacheCall

/-- The cache after a history of calls from the empty cache. -/
def replay (calls : List CacheCall) : ImageCache :=
  calls.foldl (fun c call => call.apply c) {}

/-- The map after the same history from the empty map. -/
def replayMap (calls : List CacheCall) : ImageMap :=
  calls.foldl (fun m call => call.onMap m) ∅

namespace Models

variable {c : ImageCache} {m : ImageMap}

/-- A load under a missing key, whatever its loader gives. -/
theorem load_miss (hm : Models c m) {k : String} (hk : k ∉ m) (o : Except Error Surface) :
    Models (c.getOrInsertWith k fun _ => o).2
      (match o with
        | .ok v => m.insert k v
        | .error _ => m) := by
  rw [hm.getOrInsertWith_miss hk]
  cases o with
  | ok v => exact hm.insert hk v
  | error e => exact hm

/-- **One call keeps the relation**, with the map changed as `CacheCall.onMap` says. -/
theorem apply (hm : Models c m) (call : CacheCall) : Models (call.apply c) (call.onMap m) := by
  cases call with
  | load k o =>
    by_cases hk : k ∈ m
    · obtain ⟨v, hv⟩ := Finmap.mem_iff.mp hk
      simp only [CacheCall.apply, CacheCall.onMap, if_pos hk, hm.getOrInsertWith_hit hv]
      exact hm
    · simp only [CacheCall.apply, CacheCall.onMap, if_neg hk]
      exact hm.load_miss hk o
  | loadFitted k w h o =>
    by_cases hk : k ∈ m
    · obtain ⟨v, hv⟩ := Finmap.mem_iff.mp hk
      simp only [CacheCall.apply, CacheCall.onMap, if_pos hk, getOrInsertFitted,
        hm.getOrInsertWith_hit hv]
      exact hm
    · simp only [CacheCall.apply, CacheCall.onMap, if_neg hk, getOrInsertFitted]
      -- the fitted load is a load whose loader fits what it loads
      have h := hm.load_miss hk (o.map (fit w h))
      cases o <;> exact h
  | shade k d => exact hm.shade k d
  | invalidate k => exact (hm.invalidate k).2
  | clear => exact Models.clear c

end Models

/-- **Every history keeps the relation**: the induction is on the history, from any related
pair, one call at a time. -/
theorem models_foldl (calls : List CacheCall) :
    ∀ (c : ImageCache) (m : ImageMap), Models c m →
      Models (calls.foldl (fun c call => call.apply c) c)
        (calls.foldl (fun m call => call.onMap m) m) := by
  induction calls with
  | nil => exact fun _ _ hm => hm
  | cons call calls ih =>
    intro c m hm
    exact ih _ _ (hm.apply call)

theorem models_replay (calls : List CacheCall) : Models (replay calls) (replayMap calls) :=
  models_foldl calls {} ∅ models_empty

/-- **The image cache refines a finite map.** After every history of calls from the empty cache
it stands for the map the same history makes from the empty map, and wherever a cache stands
for a map: a lookup gives the map's image; the size is the number of keys, and the cache is
empty exactly when the map is; a loading lookup runs its loader exactly when the key is missing,
on a hit gives the map's image and changes nothing, on a miss caches and gives what loads (a
fitted lookup, the image fitted to the requested size) and on a failed load gives the error and
leaves images and shaded variants exactly as they were; shading keeps the map; invalidation
tells whether the key was in the map and erases it; and clearing empties it. -/
theorem cache_refines_finite_map :
    (∀ calls, Models (replay calls) (replayMap calls)) ∧
    (∀ (c : ImageCache) (m : ImageMap), Models c m →
      (∀ k, c.get? k = m.lookup k) ∧
      c.size = m.keys.card ∧
      (c.isEmpty = true ↔ m = ∅) ∧
      (∀ k load, (c.getOrInsertWith k load).1.loaded = decide (k ∉ m)) ∧
      (∀ k v load, m.lookup k = some v → c.getOrInsertWith k load = (⟨.ok v, false⟩, c)) ∧
      (∀ k v load, k ∉ m → load () = .ok v →
        (c.getOrInsertWith k load).1.result = .ok v ∧
          Models (c.getOrInsertWith k load).2 (m.insert k v)) ∧
      (∀ k e load, k ∉ m → load () = .error e →
        c.getOrInsertWith k load = (⟨.error e, true⟩, c)) ∧
      (∀ k w h load, (c.getOrInsertFitted k w h load).1.loaded = decide (k ∉ m)) ∧
      (∀ k w h v load, m.lookup k = some v →
        c.getOrInsertFitted k w h load = (⟨.ok v, false⟩, c)) ∧
      (∀ k w h v load, k ∉ m → load () = .ok v →
        (c.getOrInsertFitted k w h load).1.result = .ok (fit w h v) ∧
          Models (c.getOrInsertFitted k w h load).2 (m.insert k (fit w h v))) ∧
      (∀ k w h e load, k ∉ m → load () = .error e →
        c.getOrInsertFitted k w h load = (⟨.error e, true⟩, c)) ∧
      (∀ k d, Models (c.shade k d).2 m) ∧
      (∀ k, (c.invalidate k).1 = decide (k ∈ m) ∧ Models (c.invalidate k).2 (m.erase k)) ∧
      Models c.clear ∅) := by
  refine ⟨models_replay, fun c m hm => ⟨hm.get?_eq, hm.size_eq, hm.isEmpty_iff,
    hm.loaded_getOrInsertWith, fun _ _ _ hv => hm.getOrInsertWith_hit hv _, ?_, ?_,
    fun k _ _ _ => hm.loaded_getOrInsertWith k _, fun _ _ _ _ _ hv => hm.getOrInsertWith_hit hv _,
    ?_, ?_, hm.shade, hm.invalidate, Models.clear c⟩⟩
  · intro k v load hk hload
    rw [hm.getOrInsertWith_miss hk, hload]
    exact ⟨rfl, hm.insert hk v⟩
  · intro k e load hk hload
    rw [hm.getOrInsertWith_miss hk, hload]
  · intro k w h v load hk hload
    rw [getOrInsertFitted, hm.getOrInsertWith_miss hk, hload]
    exact ⟨rfl, hm.insert hk _⟩
  · intro k w h e load hk hload
    rw [getOrInsertFitted, hm.getOrInsertWith_miss hk, hload]
    rfl

/-- After an image is loaded under a key, a second lookup of the key gives it without running
its loader, even one that would fail. -/
theorem cache_refines_finite_map_loads_once :
    (replay [.load "logo" (.ok ⟨1, 1, .rgb565Le, ⟨#[52, 18]⟩, none⟩)]).getOrInsertWith "logo"
        (fun _ => .error .unrecognizedFormat) =
      (⟨.ok ⟨1, 1, .rgb565Le, ⟨#[52, 18]⟩, none⟩, false⟩,
        replay [.load "logo" (.ok ⟨1, 1, .rgb565Le, ⟨#[52, 18]⟩, none⟩)]) := by
  obtain ⟨hrun, hspec⟩ := cache_refines_finite_map
  apply (hspec _ _ (hrun _)).2.2.2.2.1
  simp [replayMap, CacheCall.onMap, Finmap.notMem_empty]

end ImageCache

end Raster
