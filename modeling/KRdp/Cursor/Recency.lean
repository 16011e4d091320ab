/-
The cursor cache against a least recently used cache.

Each call either leaves the cache alone, gives one entry the current time, or
stores a new entry, for which the entry with the least time goes when the cache is
full.  While the clock goes on, the entries in the order of their times are then
the keys of a least recently used cache, and an image is sent for every miss.
-/

import KRdp.Cursor.PointerCache
import KRdp.Library.LeastRecentlyUsed

namespace KRdp

open LeastRecentlyUsed

namespace Cursor

variable {Image : Type}

/-! ### Evicting the least time -/

abbrev CursorKey (Image : Type) : Type := QPoint × Image

def cursorKey (update : CursorUpdate Image) : CursorKey Image := (update.hotspot, update.image)

def entryKey (entry : CacheEntry Image) : CursorKey Image := cursorKey entry.2

def entryStamp (entry : CacheEntry Image) : Int := entry.2.lastUsed

theorem minElement_le {entries : List (CacheEntry Image)} {smallest : CacheEntry Image}
    (found : minElement entries = some smallest) :
    ∀ entry ∈ entries, entryStamp smallest ≤ entryStamp entry := by
  cases entries with
  | nil => contradiction
  | cons first rest =>
      obtain rfl := Option.some.inj found
      clear found
      induction rest generalizing first with
      | nil => simp
      | cons next rest ih =>
          rw [List.foldl_cons]
          by_cases less : next.2.lastUsed < first.2.lastUsed
          · rw [if_pos less]
            have below := ih next
            intro entry member
            rcases List.mem_cons.mp member with rfl | member
            · exact (below next List.mem_cons_self).trans less.le
            · exact below entry member
          · rw [if_neg less]
            have below := ih first
            intro entry member
            rcases List.mem_cons.mp member with rfl | member
            · exact below entry List.mem_cons_self
            · rcases List.mem_cons.mp member with rfl | member
              · exact (below first List.mem_cons_self).trans (not_lt.mp less)
              · exact below entry (List.mem_cons_of_mem first member)

theorem perm_of_lookup {cursorCache : CursorCache Image} {key : UInt32}
    {entry : CursorUpdate Image} (found : cursorCache.lookup key = some entry) :
    cursorCache.entries.Perm (⟨key, entry⟩ :: (cursorCache.erase key).entries) := by
  have stored : (⟨key, entry⟩ : CacheEntry Image) ∈ cursorCache.entries :=
    AList.mem_lookup_iff.mp found
  obtain ⟨other, front, back, _, split, erased⟩ :=
    List.exists_of_kerase (List.mem_keys_of_mem stored)
  have listed : (⟨key, other⟩ : CacheEntry Image) ∈ cursorCache.entries := by
    rw [split]
    simp
  obtain rfl : entry = other := cursorCache.nodupKeys.eq_of_mk_mem stored listed
  have rest : (cursorCache.erase key).entries = front ++ back := erased
  rw [rest, split]
  exact List.perm_middle

/-- A full cache loses an entry with the least time; any other keeps its entries. -/
theorem allocate_entries (session : Session) (order : HashOrder Image)
    {cursorCache : CursorCache Image} (positive : 0 < session.pointerCacheSize) :
    cursorCache.size < session.pointerCacheSize.toNat ∧
        (allocate session order cursorCache).2 = cursorCache ∨
      session.pointerCacheSize.toNat ≤ cursorCache.size ∧
        ∃ lru : CacheEntry Image,
          cursorCache.entries.Perm (lru :: (allocate session order cursorCache).2.entries) ∧
            ∀ entry ∈ cursorCache.entries, entryStamp lru ≤ entryStamp entry := by
  unfold allocate
  by_cases full : session.pointerCacheSize.toNat ≤ cursorCache.size
  · right
    rw [if_pos full]
    obtain ⟨lru, found⟩ := minElement_of_full order positive full
    rw [found]
    refine ⟨full, lru, ?_, ?_⟩
    · exact perm_of_lookup (order.lookup_of_mem (minElement_mem found))
    · intro entry member
      exact minElement_le found entry ((order.perm cursorCache).mem_iff.mpr member)
  · left
    rw [if_neg full]
    exact ⟨Nat.lt_of_not_le full, rfl⟩

/-! ### The order of the entries -/

/-- The entries in the order of their times have the keys of a least recently used
cache. -/
structure Ordered (cacheSize : UInt32) (cursorCache : CursorCache Image)
    (recent : List (CursorKey Image)) (readings : List Int) : Prop where
  dense : Dense cacheSize cursorCache
  refines : Refines entryKey entryStamp cursorCache.entries recent
  stamps : ∀ entry ∈ cursorCache.entries, entryStamp entry ∈ readings

theorem size_eq (cursorCache : CursorCache Image) :
    cursorCache.size = cursorCache.entries.length :=
  List.length_map _

section Ordered

variable {cacheSize : UInt32} {cursorCache : CursorCache Image}
  {recent : List (CursorKey Image)} {readings : List Int} {now : Int}

theorem Ordered.later (ordered : Ordered cacheSize cursorCache recent readings) (now : Int) :
    Ordered cacheSize cursorCache recent (readings ++ [now]) :=
  ⟨ordered.dense, ordered.refines,
    fun entry member => List.mem_append_left _ (ordered.stamps entry member)⟩

variable [DecidableEq Image]

/-- An entry of the cache is given the current time. -/
theorem Ordered.refresh (ordered : Ordered cacheSize cursorCache recent readings)
    (clock : ∀ earlier ∈ readings, earlier < now) {key : UInt32} {entry : CursorUpdate Image}
    (found : cursorCache.lookup key = some entry) :
    cursorKey entry ∈ recent ∧
      Ordered cacheSize (cursorCache.insert key { entry with lastUsed := now })
        (use cacheSize.toNat (cursorKey entry) recent) (readings ++ [now]) := by
  have perm := perm_of_lookup found
  have hit : cursorKey entry ∈ recent :=
    ordered.refines.mem_iff.mpr ⟨⟨key, entry⟩, perm.mem_iff.mpr List.mem_cons_self, rfl⟩
  have kept : ∀ other ∈ (cursorCache.erase key).entries, other ∈ cursorCache.entries :=
    fun other member => perm.mem_iff.mpr (List.mem_cons_of_mem _ member)
  have entries : (cursorCache.insert key { entry with lastUsed := now }).entries =
      ⟨key, { entry with lastUsed := now }⟩ :: (cursorCache.erase key).entries :=
    AList.entries_insert
  refine ⟨hit, ?_, ?_, ?_⟩
  · exact ordered.dense.overwrite (mem_of_lookup found) (ordered.dense.cacheIds key entry found)
  · rw [entries, use_of_mem hit]
    refine (ordered.refines.perm perm).touch ?_ ?_
    · rfl
    · intro other member
      exact clock _ (ordered.stamps other (kept other member))
  · rw [entries]
    intro other member
    rcases List.mem_cons.mp member with rfl | member
    · exact List.mem_append_right _ (List.mem_singleton_self now)
    · exact List.mem_append_left _ (ordered.stamps other (kept other member))

/-- What the allocation leaves refines the reference cache once the new entry is added. -/
theorem Ordered.allocated {session : Session}
    (ordered : Ordered session.pointerCacheSize cursorCache recent readings)
    (positive : 0 < session.pointerCacheSize) (order : HashOrder Image)
    {fresh : CacheEntry Image} (miss : entryKey fresh ∉ recent)
    (latest : ∀ other ∈ cursorCache.entries, entryStamp other < entryStamp fresh) :
    (∀ other ∈ (allocate session order cursorCache).2.entries, other ∈ cursorCache.entries) ∧
      Refines entryKey entryStamp (fresh :: (allocate session order cursorCache).2.entries)
        (use session.pointerCacheSize.toNat (entryKey fresh) recent) := by
  have length := ordered.refines.length_eq.trans (size_eq cursorCache).symm
  rcases allocate_entries session order positive with ⟨room, same⟩ | ⟨full, lru, perm, least⟩
  · rw [same, use_of_room miss (length.trans_lt room)]
    exact ⟨fun other member => member, ordered.refines.insert miss latest⟩
  · have others : ∀ other ∈ (allocate session order cursorCache).2.entries,
        other ∈ cursorCache.entries :=
      fun other member => perm.mem_iff.mpr (List.mem_cons_of_mem lru member)
    have exactly : recent.length = session.pointerCacheSize.toNat :=
      length.trans (Nat.le_antisymm ordered.dense.bounded full)
    rw [use_of_full miss exactly]
    have evicted := (ordered.refines.perm perm).evict fun other member =>
      least other (others other member)
    refine ⟨others, evicted.insert ?_ fun other member => latest other (others other member)⟩
    exact fun member => miss ((List.dropLast_sublist recent).subset member)

/-- A new entry is stored, in the place of the least recent one if the cache is full. -/
theorem Ordered.store (ordered : Ordered cacheSize cursorCache recent readings)
    (positive : 0 < cacheSize) (clock : ∀ earlier ∈ readings, earlier < now)
    {session : Session} (size : session.pointerCacheSize = cacheSize) (order : HashOrder Image)
    {new : CursorUpdate Image} (stamp : new.lastUsed = now)
    (cacheId : new.cacheId = (allocate session order cursorCache).1)
    (miss : cursorKey new ∉ recent) :
    Ordered cacheSize ((allocate session order cursorCache).2.insert new.cacheId new)
      (use cacheSize.toNat (cursorKey new) recent) (readings ++ [now]) := by
  subst size
  have allocates := allocate_allocates session order ordered.dense positive
  have absent : new.cacheId ∉ (allocate session order cursorCache).2 := by
    intro member
    obtain ⟨entry, found⟩ := Option.isSome_iff_exists.mp (AList.lookup_isSome.mpr member)
    exact (allocates.keeps _ _ found).1 cacheId
  have newStamp : entryStamp (⟨new.cacheId, new⟩ : CacheEntry Image) = now := stamp
  have latest : ∀ other ∈ cursorCache.entries,
      entryStamp other < entryStamp ⟨new.cacheId, new⟩ := by
    intro other member
    rw [newStamp]
    exact clock _ (ordered.stamps other member)
  have missing : entryKey (⟨new.cacheId, new⟩ : CacheEntry Image) ∉ recent := miss
  have kept := ordered.allocated positive order missing latest
  refine ⟨?_, ?_, ?_⟩
  · rw [cacheId]
    exact allocates.completes new cacheId
  · rw [AList.entries_insert_of_notMem absent]
    exact kept.2
  · rw [AList.entries_insert_of_notMem absent]
    intro other member
    rcases List.mem_cons.mp member with rfl | member
    · rw [newStamp]
      exact List.mem_append_right _ (List.mem_singleton_self now)
    · exact List.mem_append_left _ (ordered.stamps other (kept.1 other member))

end Ordered

/-! ### What a call does to the cache -/

def PointerPdu.isImage : PointerPdu → Bool
  | .pointerNew _ => true
  | .pointerLarge _ => true
  | .pointerSystem _ => false
  | .pointerCached _ => false

/-- A full image is among the messages that are sent from one state to the other. -/
def SendsImage (before after : Private Image) : Prop :=
  ∃ pdu ∈ after.sent.drop before.sent.length, pdu.isImage = true

theorem sendsImage_iff {before after : Private Image} {added : List PointerPdu}
    (sent : after.sent = before.sent ++ added) :
    SendsImage before after ↔ ∃ pdu ∈ added, pdu.isImage = true := by
  rw [SendsImage, sent, List.drop_left]

theorem not_sendsImage_of_sent {before after : Private Image} (sent : after.sent = before.sent) :
    ¬SendsImage before after := by
  rw [sendsImage_iff (sent.trans (List.append_nil _).symm)]
  simp

section Requests

variable [QImage Image] [DecidableEq Image]

/-- Images that are neither null nor too large. -/
def Cacheable (image : Image) : Prop := QImage.isNull image = false ∧ ¬oversized image

instance (image : Image) : Decidable (Cacheable image) := inferInstanceAs (Decidable (_ ∧ _))

def streamingSession (cacheSize : UInt32) : Session :=
  { state := .streaming
    pointerCacheSize := cacheSize }

inductive Effect (cacheSize : UInt32) (d : Private Image) (request : Request Image)
    (after : Private Image) : Prop
  | ignored (refused : ¬Cacheable request.update.image)
      (cache : after.cursorCache = d.cursorCache)
      (last : after.lastUsedCursor = d.lastUsedCursor ∨ after.lastUsedCursor = none)
      (silent : ¬SendsImage d after)
  | refreshed (key : UInt32) (entry : CursorUpdate Image)
      (accepted : Cacheable request.update.image)
      (found : d.cursorCache.lookup key = some entry)
      (same : cursorKey entry = cursorKey request.update)
      (cache : after.cursorCache =
        d.cursorCache.insert key { entry with lastUsed := request.now })
      (last : after.lastUsedCursor = some key) (silent : ¬SendsImage d after)
  | stored (new : CursorUpdate Image) (accepted : Cacheable request.update.image)
      (missing : ∀ entry ∈ d.cursorCache.entries, entryKey entry ≠ cursorKey request.update)
      (same : cursorKey new = cursorKey request.update) (stamp : new.lastUsed = request.now)
      (cacheId : new.cacheId =
        (allocate (streamingSession cacheSize) request.order d.cursorCache).1)
      (cache : after.cursorCache =
        (allocate (streamingSession cacheSize) request.order d.cursorCache).2.insert
          new.cacheId new)
      (last : after.lastUsedCursor = some new.cacheId) (sends : SendsImage d after)

variable {cacheSize : UInt32} {d : Private Image}

omit [QImage Image] in
theorem cursorKey_eq_iff {first second : CursorUpdate Image} :
    cursorKey first = cursorKey second ↔ first.same second = true := by
  rw [same_iff, cursorKey, cursorKey, Prod.mk.injEq]

omit [QImage Image] [DecidableEq Image] in
theorem setCursorType_image (d : Private Image) :
    ∃ type, setCursorType .image d = { d with cursorType := type } := by
  unfold setCursorType
  split
  · exact ⟨d.cursorType, rfl⟩
  · exact ⟨.image, rfl⟩

omit [DecidableEq Image] in
theorem pointerImage_isImage (newCursor : CursorUpdate Image) :
    (pointerImage newCursor).isImage = true := by
  unfold pointerImage
  split
  · rfl
  · rfl

omit [QImage Image] in
theorem findCached_none {order : HashOrder Image} {update : CursorUpdate Image}
    {cursorCache : CursorCache Image} (missing : findCached order update cursorCache = none) :
    ∀ entry ∈ cursorCache.entries, entryKey entry ≠ cursorKey update := by
  intro entry member same
  have listed := (order.perm cursorCache).mem_iff.mpr member
  exact List.find?_eq_none.mp missing entry listed (cursorKey_eq_iff.mp same.symm)

theorem showOther_effect {request : Request Image} (accepted : Cacheable request.update.image)
    {shown : Private Image} (sent : shown.sent = d.sent)
    (cache : shown.cursorCache = d.cursorCache) :
    Effect cacheSize d request
      (showOther (streamingSession cacheSize) request.order request.now request.update shown) := by
  unfold showOther
  rw [cache]
  cases found : findCached request.order request.update d.cursorCache with
  | some entry =>
      have equal := List.find?_some found
      refine .refreshed entry.1 entry.2 accepted (findCached_spec found).1
        (cursorKey_eq_iff.mpr equal).symm ?_ rfl ?_
      · simp only [showCached, send, touch, cache]
      · rw [sendsImage_iff (congrArg (· ++ [.pointerCached entry.2.cacheId]) sent)]
        simp [PointerPdu.isImage]
  | none =>
      let new : CursorUpdate Image :=
        { hotspot := request.update.hotspot
          image := request.update.image
          cacheId := (allocate (streamingSession cacheSize) request.order d.cursorCache).1
          lastUsed := request.now }
      refine .stored new accepted (findCached_none found) rfl rfl rfl rfl rfl ?_
      have messages : (showNew new
          (allocate (streamingSession cacheSize) request.order d.cursorCache).2 shown).sent =
          d.sent ++ [pointerImage new, .pointerCached new.cacheId] := by
        simp [showNew, send, sent]
      rw [sendsImage_iff messages]
      exact ⟨pointerImage new, List.mem_cons_self, pointerImage_isImage new⟩

theorem showImage_effect {request : Request Image} (accepted : Cacheable request.update.image)
    {shown : Private Image} (sent : shown.sent = d.sent)
    (cache : shown.cursorCache = d.cursorCache)
    (valid : ∀ key, shown.lastUsedCursor = some key → key ∈ d.cursorCache) :
    Effect cacheSize d request
      (showImage (streamingSession cacheSize) request.order request.now request.update shown) := by
  have other : Effect cacheSize d request
      (showOther (streamingSession cacheSize) request.order request.now request.update shown) :=
    showOther_effect accepted sent cache
  unfold showImage Private.lastUsed
  cases last : shown.lastUsedCursor with
  | none => exact other
  | some key =>
      obtain ⟨entry, found⟩ := Option.isSome_iff_exists.mp
        (AList.lookup_isSome.mpr (valid key last))
      simp only [Option.bind_some, cache, found]
      by_cases same : entry.same request.update = true
      · rw [if_pos same]
        refine .refreshed key entry accepted found (cursorKey_eq_iff.mpr same) ?_ last
          (not_sendsImage_of_sent sent)
        rw [touch, cache]
      · rw [if_neg same]
        exact other

/-- A call has one of the three effects; the last used cursor has to be in the
cache. -/
theorem step_effect (valid : ∀ key, d.lastUsedCursor = some key → key ∈ d.cursorCache)
    (request : Request Image) : Effect cacheSize d request (step cacheSize d request) := by
  unfold step update
  rw [if_neg (not_not_intro rfl)]
  by_cases null : QImage.isNull request.update.image = true
  · rw [if_pos null]
    refine .ignored ?_ rfl (.inl rfl) (not_sendsImage_of_sent rfl)
    intro accepted
    rw [accepted.1] at null
    cases null
  · rw [if_neg null]
    by_cases large : oversized request.update.image
    · rw [if_pos large]
      have refused : ¬Cacheable request.update.image := fun accepted => accepted.2 large
      unfold setCursorType
      split
      · exact .ignored refused rfl (.inl rfl) (not_sendsImage_of_sent rfl)
      · refine .ignored refused rfl (.inr rfl) ?_
        rw [sendsImage_iff rfl]
        simp [PointerPdu.isImage]
    · rw [if_neg large]
      have accepted : Cacheable request.update.image :=
        ⟨Bool.not_eq_true _ ▸ null, large⟩
      obtain ⟨type, image⟩ := setCursorType_image d
      rw [image]
      exact showImage_effect accepted rfl rfl valid

/-! ### Beside the reference cache -/

/-- The cursors beside a least recently used cache for the same requests. -/
structure Compared (Image : Type) where
  d : Private Image := {}
  recent : List (CursorKey Image) := []
  readings : List Int := []

/-- Every acceptable request is a use; the others do not touch the cache. -/
def referenceStep (cacheSize : UInt32) (recent : List (CursorKey Image))
    (request : Request Image) : List (CursorKey Image) :=
  if Cacheable request.update.image then
    use cacheSize.toNat (cursorKey request.update) recent
  else recent

def comparedStep (cacheSize : UInt32) (compared : Compared Image) (request : Request Image) :
    Compared Image :=
  { d := step cacheSize compared.d request
    recent := referenceStep cacheSize compared.recent request
    readings := compared.readings ++ [request.now] }

/-- A full image is sent if and only if the request misses in the reference cache. -/
def SendsOnMiss (cacheSize : UInt32) (compared : Compared Image) (request : Request Image) :
    Prop :=
  SendsImage compared.d (step cacheSize compared.d request) ↔
    Cacheable request.update.image ∧ cursorKey request.update ∉ compared.recent

structure Tracks (cacheSize : UInt32) (compared : Compared Image) : Prop where
  ordered : Ordered cacheSize compared.d.cursorCache compared.recent compared.readings
  last : ∀ key, compared.d.lastUsedCursor = some key → key ∈ compared.d.cursorCache

/-- The clock has gone on since all earlier requests. -/
def ClockGoesOn (compared : Compared Image) (request : Request Image) : Prop :=
  ∀ earlier ∈ compared.readings, earlier < request.now

variable {compared : Compared Image} {request : Request Image}

omit [QImage Image] [DecidableEq Image] in
theorem last_mem_of_insert {after : Private Image} {cursorCache : CursorCache Image}
    {key : UInt32} {entry : CursorUpdate Image}
    (cache : after.cursorCache = cursorCache.insert key entry)
    (last : after.lastUsedCursor = some key) :
    ∀ other, after.lastUsedCursor = some other → other ∈ after.cursorCache := by
  intro other used
  rw [last] at used
  rw [cache, ← Option.some.inj used]
  exact (AList.mem_insert _).mpr (.inl rfl)

theorem Tracks.step (tracks : Tracks cacheSize compared) (positive : 0 < cacheSize)
    (clock : ClockGoesOn compared request) :
    Tracks cacheSize (comparedStep cacheSize compared request) ∧
      SendsOnMiss cacheSize compared request := by
  cases step_effect tracks.last request with
  | ignored refused cache last silent =>
      have reference : referenceStep cacheSize compared.recent request = compared.recent :=
        if_neg refused
      refine ⟨⟨?_, ?_⟩, iff_of_false silent fun miss => refused miss.1⟩
      · rw [comparedStep, cache, reference]
        exact tracks.ordered.later request.now
      · intro key used
        rw [comparedStep] at used ⊢
        rw [cache]
        rcases last with same | none
        · exact tracks.last key (same ▸ used)
        · rw [none] at used
          cases used
  | refreshed key entry accepted found same cache last silent =>
      obtain ⟨hit, ordered⟩ := tracks.ordered.refresh clock found
      have reference : referenceStep cacheSize compared.recent request =
          use cacheSize.toNat (cursorKey entry) compared.recent := by
        rw [referenceStep, if_pos accepted, same]
      rw [same] at hit
      refine ⟨⟨?_, ?_⟩, iff_of_false silent fun miss => miss.2 hit⟩
      · rw [comparedStep, cache, reference]
        exact ordered
      · exact last_mem_of_insert cache last
  | stored new accepted missing same stamp cacheId cache last sends =>
      have miss : cursorKey new ∉ compared.recent := by
        rw [tracks.ordered.refines.mem_iff, same]
        rintro ⟨entry, member, equal⟩
        exact missing entry member equal
      have ordered := tracks.ordered.store positive clock rfl request.order stamp cacheId miss
      have reference : referenceStep cacheSize compared.recent request =
          use cacheSize.toNat (cursorKey new) compared.recent := by
        rw [referenceStep, if_pos accepted, same]
      rw [same] at miss
      refine ⟨⟨?_, ?_⟩, iff_of_true sends ⟨accepted, miss⟩⟩
      · rw [comparedStep, cache, reference]
        exact ordered
      · exact last_mem_of_insert cache last

omit [DecidableEq Image] in
theorem Tracks.initial : Tracks cacheSize ({} : Compared Image) := by
  refine ⟨⟨mirrors_initial.dense, Refines.nil, by simp⟩, ?_⟩
  intro key none
  cases none

theorem clock_along {requests : List (Request Image)}
    (clock : (requests.map Request.now).Pairwise (· < ·)) :
    StepRun.Along (comparedStep cacheSize) ClockGoesOn {} requests := by
  apply StepRun.along_of_pairwise_map Request.now
    (fun compared : Compared Image => compared.readings) ?_ clock
  · simp
  · intro compared request
    exact List.Subset.refl _

/-- While the clock goes on, full images are sent exactly for the misses of a least
recently used cache of the same size, for every order in which the hash table lists
its entries. -/
theorem images_sent_on_miss (positive : 0 < cacheSize) (requests : List (Request Image))
    (clock : (requests.map Request.now).Pairwise (· < ·)) :
    StepRun.Along (comparedStep cacheSize) (SendsOnMiss cacheSize) {} requests := by
  apply StepRun.along_of_guarded (Tracks cacheSize) Tracks.initial (clock_along clock)
  · intro compared request tracks goesOn
    exact (tracks.step positive goesOn).1
  · intro compared request tracks goesOn
    exact (tracks.step positive goesOn).2

end Requests

/-- Two cursors that take turns in one slot. -/
theorem images_sent_on_miss_oneSlot :
    StepRun.Along (comparedStep 1) (SendsOnMiss 1) {}
      [squareRequest 2 (by decide) black 1, squareRequest 3 (by decide) black 2,
        squareRequest 2 (by decide) black 3] :=
  images_sent_on_miss (by decide) _ (by decide)

end Cursor

end KRdp
