/-
The pointer cache of the client.

The client is replayed from the log of pointer messages.  It keeps one pointer
in each slot and shows either one of them or a system pointer.  The mirroring
invariant ties the server's cache and its last used cursor to that client; it
is kept between the change of the cursor type and the rest of an update, and
so speaks of what was last used and not of what was requested.
-/

import KRdp.Cursor.Update
import KRdp.Library.MachineInt
import KRdp.Library.Run

namespace KRdp

open MachineInt

namespace Cursor

variable {Image : Type}

/-! ### The client -/

structure Pointer where
  hotSpotX : Int
  hotSpotY : Int
  width : Nat
  height : Nat
  rows : List (List Argb32)
  deriving DecidableEq, Repr

inductive Shown where
  | system (type : SystemPointer)
  | pointer (pointer : Pointer)
  deriving DecidableEq, Repr

structure Client where
  slots : Nat → Option Pointer := fun _ => none
  shown : Shown := .system .default

/-- The mask is as long as the message says. -/
def Pointer.ofMask (hotSpotX hotSpotY width height : UInt16) (lengthXorMask : Nat)
    (xorMaskData : List UInt8) : Pointer :=
  { hotSpotX := hotSpotX.toNat
    hotSpotY := hotSpotY.toNat
    width := width.toNat
    height := height.toNat
    rows := Argb32Image.readBack width.toNat height.toNat (xorMaskData.take lengthXorMask) }

def Client.store (client : Client) (index : Nat) (pointer : Pointer) : Client :=
  { slots := fun slot => if slot = index then some pointer else client.slots slot
    shown := .pointer pointer }

def Client.receive (client : Client) : PointerPdu → Client
  | .pointerSystem type => { client with shown := .system type }
  | .pointerNew update =>
      let color := update.colorPtrAttr
      client.store color.cacheIndex.toNat
        (.ofMask color.hotSpotX color.hotSpotY color.width color.height
          color.lengthXorMask.toNat color.xorMaskData)
  | .pointerLarge update =>
      client.store update.cacheIndex.toNat
        (.ofMask update.hotSpotX update.hotSpotY update.width update.height
          update.lengthXorMask.toNat update.xorMaskData)
  | .pointerCached cacheIndex =>
      match client.slots cacheIndex.toNat with
      | none => client
      | some pointer => { client with shown := .pointer pointer }

def clientOf (d : Private Image) : Client := StepRun.run Client.receive {} d.sent

/-- Indexes lie below the cache size, and a cached pointer has been stored. -/
def Acceptable (cacheSize : UInt32) (client : Client) : PointerPdu → Prop
  | .pointerSystem _ => True
  | .pointerNew update => update.colorPtrAttr.cacheIndex.toNat < cacheSize.toNat
  | .pointerLarge update => update.cacheIndex.toNat < cacheSize.toNat
  | .pointerCached cacheIndex =>
      cacheIndex.toNat < cacheSize.toNat ∧ (client.slots cacheIndex.toNat).isSome

/-! ### What is requested -/

structure Request (Image : Type) where
  update : CursorUpdate Image
  now : Int
  order : HashOrder Image

def HotspotFits (hotspot : QPoint) : Prop :=
  0 ≤ hotspot.x.toInt ∧ hotspot.x.toInt < 2 ^ 16 ∧
    0 ≤ hotspot.y.toInt ∧ hotspot.y.toInt < 2 ^ 16

instance (hotspot : QPoint) : Decidable (HotspotFits hotspot) :=
  inferInstanceAs (Decidable (_ ∧ _))

section Images

variable [QImage Image]

def Pointer.ofUpdate (update : CursorUpdate Image) : Pointer :=
  let converted := QImage.convertToArgb32 update.image
  { hotSpotX := update.hotspot.x.toInt
    hotSpotY := update.hotspot.y.toInt
    width := converted.width
    height := converted.height
    rows := converted.rows }

/-- What should be shown after a request: a null image asks for nothing. -/
def requested (shown : Shown) (request : Request Image) : Shown :=
  if QImage.isNull request.update.image then shown
  else if oversized request.update.image then .system .default
  else .pointer (.ofUpdate request.update)

variable [DecidableEq Image]

def step (cacheSize : UInt32) (d : Private Image) (request : Request Image) : Private Image :=
  update
    { state := .streaming
      pointerCacheSize := cacheSize }
    request.order request.now request.update d

end Images

/-! ### The mirroring invariant -/

/-- The ids in use are the numbers below the size of the cache. -/
structure Dense (cacheSize : UInt32) (cursorCache : CursorCache Image) : Prop where
  bounded : cursorCache.size ≤ cacheSize.toNat
  ids : ∀ key : UInt32, key ∈ cursorCache ↔ key.toNat < cursorCache.size
  cacheIds : ∀ key entry, cursorCache.lookup key = some entry → entry.cacheId = key

section Mirror

variable [QImage Image]

def Holds (cursorCache : CursorCache Image) (client : Client) : Prop :=
  ∀ key entry, cursorCache.lookup key = some entry →
    client.slots key.toNat = some (.ofUpdate entry)

structure Mirrors (cacheSize : UInt32) (d : Private Image) (client : Client) : Prop where
  dense : Dense cacheSize d.cursorCache
  holds : Holds d.cursorCache client
  lastShown : ∀ key, d.lastUsedCursor = some key →
    ∃ entry, d.cursorCache.lookup key = some entry ∧ client.shown = .pointer (.ofUpdate entry)
  visible : d.cursorType ≠ .hidden
  systemShown : d.cursorType = .systemDefault → client.shown = .system .default

structure Continues (cacheSize : UInt32) (before after : Private Image) : Prop where
  mirrors : Mirrors cacheSize after (clientOf after)
  extends_sent :
    StepRun.Extends Client.receive (Acceptable cacheSize) {} before.sent after.sent

end Mirror

/-! ### Allocation of ids -/

namespace CursorCache

variable {cursorCache : CursorCache Image} {key : UInt32} {entry : CursorUpdate Image}

theorem size_insert_of_mem (member : key ∈ cursorCache) :
    CursorCache.size (cursorCache.insert key entry) = cursorCache.size := by
  have present : key ∈ cursorCache.keys := AList.mem_keys.mp member
  have positive : 0 < cursorCache.keys.length := List.length_pos_of_mem present
  rw [size, size, AList.keys_insert, List.length_cons, List.length_erase_of_mem present]
  omega

theorem size_insert_of_not_mem (absent : key ∉ cursorCache) :
    CursorCache.size (cursorCache.insert key entry) = cursorCache.size + 1 := by
  have missing : key ∉ cursorCache.keys := fun present => absent (AList.mem_keys.mpr present)
  rw [size, size, AList.keys_insert, List.length_cons, List.erase_of_not_mem missing]

theorem size_erase_of_mem (member : key ∈ cursorCache) :
    CursorCache.size (cursorCache.erase key) + 1 = cursorCache.size := by
  have present : key ∈ cursorCache.keys := AList.mem_keys.mp member
  have positive : 0 < cursorCache.keys.length := List.length_pos_of_mem present
  rw [size, size, AList.keys_erase, List.length_erase_of_mem present]
  omega

theorem lookup_insert_eq_some {other : UInt32} {found : CursorUpdate Image} :
    (cursorCache.insert key entry).lookup other = some found ↔
      (other = key ∧ found = entry) ∨ (other ≠ key ∧ cursorCache.lookup other = some found) := by
  by_cases same : other = key
  · rw [same, AList.lookup_insert]
    simp [eq_comm]
  · rw [AList.lookup_insert_ne same]
    simp [same]

end CursorCache

theorem minElement_mem {entries : List (CacheEntry Image)} {smallest : CacheEntry Image}
    (found : minElement entries = some smallest) : smallest ∈ entries := by
  cases entries with
  | nil => contradiction
  | cons first rest =>
      obtain rfl := Option.some.inj found
      clear found
      induction rest generalizing first with
      | nil => exact List.mem_singleton_self first
      | cons next rest ih =>
          rw [List.foldl_cons]
          split
          · exact List.mem_cons_of_mem first (ih next)
          · rcases List.mem_cons.mp (ih first) with here | later
            · rw [here]
              exact List.mem_cons_self
            · exact List.mem_cons_of_mem first (List.mem_cons_of_mem next later)

theorem minElement_ne_none {entries : List (CacheEntry Image)} (nonempty : entries ≠ []) :
    minElement entries ≠ none := by
  cases entries with
  | nil => exact absurd rfl nonempty
  | cons first rest => exact Option.some_ne_none _

theorem HashOrder.lookup_of_mem (order : HashOrder Image) {cursorCache : CursorCache Image}
    {entry : CacheEntry Image} (member : entry ∈ order.entries cursorCache) :
    cursorCache.lookup entry.1 = some entry.2 :=
  AList.mem_lookup_iff.mpr ((order.perm cursorCache).mem_iff.mp member)

theorem mem_of_lookup {cursorCache : CursorCache Image} {key : UInt32}
    {entry : CursorUpdate Image} (found : cursorCache.lookup key = some entry) :
    key ∈ cursorCache := by
  rw [← AList.lookup_isSome, found]
  rfl

theorem Dense.overwrite {cacheSize : UInt32} {cursorCache : CursorCache Image}
    (dense : Dense cacheSize cursorCache) {key : UInt32} {entry : CursorUpdate Image}
    (member : key ∈ cursorCache) (cacheId : entry.cacheId = key) :
    Dense cacheSize (cursorCache.insert key entry) := by
  refine ⟨?_, ?_, ?_⟩
  · rw [CursorCache.size_insert_of_mem member]
    exact dense.bounded
  · intro other
    rw [CursorCache.size_insert_of_mem member, AList.mem_insert, ← dense.ids]
    constructor
    · rintro (rfl | present)
      · exact member
      · exact present
    · exact Or.inr
  · intro other found lookup
    rcases CursorCache.lookup_insert_eq_some.mp lookup with ⟨rfl, rfl⟩ | ⟨_, before⟩
    · exact cacheId
    · exact dense.cacheIds other found before

private theorem dense_touch {cacheSize : UInt32} {d : Private Image} {key : UInt32}
    {entry : CursorUpdate Image} (now : Int)
    (dense : Dense cacheSize d.cursorCache) (found : d.cursorCache.lookup key = some entry) :
    Dense cacheSize (touch key entry now d).cursorCache :=
  dense.overwrite (mem_of_lookup found) (dense.cacheIds key entry found)

/-- What allocation leaves behind: an entry stored under the new id completes
the ids, and nothing else appears in the cache. -/
structure Allocates (cacheSize : UInt32) (cursorCache : CursorCache Image)
    (allocated : UInt32 × CursorCache Image) : Prop where
  bounded : allocated.1.toNat < cacheSize.toNat
  completes : ∀ entry : CursorUpdate Image, entry.cacheId = allocated.1 →
    Dense cacheSize (allocated.2.insert allocated.1 entry)
  keeps : ∀ key entry, allocated.2.lookup key = some entry →
    key ≠ allocated.1 ∧ cursorCache.lookup key = some entry

private theorem allocates_next {cacheSize : UInt32} {cursorCache : CursorCache Image}
    (dense : Dense cacheSize cursorCache) (room : cursorCache.size < cacheSize.toNat) :
    Allocates cacheSize cursorCache (UInt32.ofNat cursorCache.size, cursorCache) := by
  have value : (UInt32.ofNat cursorCache.size).toNat = cursorCache.size :=
    UInt32.toNat_ofNat_of_lt' (room.trans cacheSize.toNat_lt)
  have absent : UInt32.ofNat cursorCache.size ∉ cursorCache := by
    rw [dense.ids, value]
    exact Nat.lt_irrefl _
  refine ⟨value.trans_lt room, ?_, ?_⟩
  · intro entry cacheId
    refine ⟨?_, ?_, ?_⟩
    · rw [CursorCache.size_insert_of_not_mem absent]
      exact room
    · intro key
      rw [CursorCache.size_insert_of_not_mem absent, AList.mem_insert, dense.ids,
        ← UInt32.toNat_inj, value]
      omega
    · intro key found lookup
      rcases CursorCache.lookup_insert_eq_some.mp lookup with ⟨rfl, rfl⟩ | ⟨_, before⟩
      · exact cacheId
      · exact dense.cacheIds key found before
  · intro key entry lookup
    refine ⟨?_, lookup⟩
    rintro rfl
    exact absent (mem_of_lookup lookup)

private theorem allocates_evicted {cacheSize : UInt32} {cursorCache : CursorCache Image}
    (dense : Dense cacheSize cursorCache) {key : UInt32} {lru : CursorUpdate Image}
    (stored : cursorCache.lookup key = some lru) :
    Allocates cacheSize cursorCache (lru.cacheId, cursorCache.erase key) := by
  have member := mem_of_lookup stored
  obtain rfl : lru.cacheId = key := dense.cacheIds key lru stored
  have absent : lru.cacheId ∉ cursorCache.erase lru.cacheId := by
    simp [AList.mem_erase]
  refine ⟨((dense.ids _).mp member).trans_le dense.bounded, ?_, ?_⟩
  · intro entry cacheId
    have size : CursorCache.size ((cursorCache.erase lru.cacheId).insert lru.cacheId entry) =
        cursorCache.size := by
      rw [CursorCache.size_insert_of_not_mem absent, CursorCache.size_erase_of_mem member]
    refine ⟨?_, ?_, ?_⟩
    · rw [size]
      exact dense.bounded
    · intro other
      rw [size, AList.mem_insert, AList.mem_erase, ← dense.ids]
      by_cases same : other = lru.cacheId
      · simp [same, member]
      · simp [same]
    · intro other found lookup
      rcases CursorCache.lookup_insert_eq_some.mp lookup with ⟨rfl, rfl⟩ | ⟨different, before⟩
      · exact cacheId
      · rw [AList.lookup_erase_ne different] at before
        exact dense.cacheIds other found before
  · intro other entry lookup
    have different : other ≠ lru.cacheId := by
      rintro rfl
      exact absent (mem_of_lookup lookup)
    rw [AList.lookup_erase_ne different] at lookup
    exact ⟨different, lookup⟩

/-- A full cache has an entry to evict. -/
theorem minElement_of_full {session : Session} (order : HashOrder Image)
    {cursorCache : CursorCache Image} (positive : 0 < session.pointerCacheSize)
    (full : session.pointerCacheSize.toNat ≤ cursorCache.size) :
    ∃ lru, minElement (order.entries cursorCache) = some lru := by
  have positiveNat : 0 < session.pointerCacheSize.toNat := UInt32.lt_iff_toNat_lt.mp positive
  have nonempty : order.entries cursorCache ≠ [] := by
    intro none
    have length := (order.perm cursorCache).length_eq
    have size : cursorCache.size = cursorCache.entries.length := List.length_map _
    rw [none, List.length_nil] at length
    omega
  exact Option.ne_none_iff_exists'.mp (minElement_ne_none nonempty)

theorem allocate_allocates (session : Session) (order : HashOrder Image)
    {cursorCache : CursorCache Image} (dense : Dense session.pointerCacheSize cursorCache)
    (positive : 0 < session.pointerCacheSize) :
    Allocates session.pointerCacheSize cursorCache (allocate session order cursorCache) := by
  unfold allocate
  split
  · rename_i full
    obtain ⟨lru, found⟩ := minElement_of_full order positive full
    rw [found]
    exact allocates_evicted dense (order.lookup_of_mem (minElement_mem found))
  · rename_i room
    exact allocates_next dense (Nat.lt_of_not_le room)

/-! ### What the client makes of a message -/

theorem same_iff [DecidableEq Image] (first second : CursorUpdate Image) :
    first.same second = true ↔ first.hotspot = second.hotspot ∧ first.image = second.image := by
  simp [CursorUpdate.same]

theorem clientOf_send (pdu : PointerPdu) (d : Private Image) :
    clientOf (send pdu d) = (clientOf d).receive pdu :=
  StepRun.run_append Client.receive {} d.sent [pdu]

section Simulation

variable [QImage Image]

theorem Pointer.ofUpdate_congr {first second : CursorUpdate Image}
    (hotspot : first.hotspot = second.hotspot) (image : first.image = second.image) :
    Pointer.ofUpdate first = Pointer.ofUpdate second := by
  unfold Pointer.ofUpdate
  rw [hotspot, image]

private theorem ofMask_createXorMask {cursor : CursorUpdate Image}
    (hotspot : HotspotFits cursor.hotspot) (small : ¬oversized cursor.image)
    {lengthXorMask : Nat} (length : lengthXorMask = (createXorMask cursor.image).length) :
    Pointer.ofMask cursor.hotspot.x.toUInt32.toUInt16 cursor.hotspot.y.toUInt32.toUInt16
      (QImage.width cursor.image).toUInt32.toUInt16 (QImage.height cursor.image).toUInt32.toUInt16
      lengthXorMask (createXorMask cursor.image) = .ofUpdate cursor := by
  obtain ⟨xNonneg, xSmall, yNonneg, ySmall⟩ := hotspot
  have width := QImage.width_converted cursor.image
  have height := QImage.height_converted cursor.image
  simp only [oversized, Int32.lt_iff_toInt_lt, not_or] at small
  obtain ⟨widthSmall, heightSmall⟩ := small
  change ¬(384 : Int) < _ at widthSmall
  change ¬(384 : Int) < _ at heightSmall
  have width16 := @toNat_toUInt16_of_lt (QImage.width cursor.image) (by omega) (by omega)
  have height16 := @toNat_toUInt16_of_lt (QImage.height cursor.image) (by omega) (by omega)
  have widthEq : (QImage.width cursor.image).toUInt32.toUInt16.toNat =
      (QImage.convertToArgb32 cursor.image).width := by omega
  have heightEq : (QImage.height cursor.image).toUInt32.toUInt16.toNat =
      (QImage.convertToArgb32 cursor.image).height := by omega
  rw [Pointer.ofMask, Pointer.ofUpdate, length, List.take_length,
    toNat_toUInt16_of_lt xNonneg xSmall, toNat_toUInt16_of_lt yNonneg ySmall, widthEq, heightEq,
    createXorMask, Argb32Image.readBack_bits]

private theorem length_createXorMask_le {image : Image} {limit : Nat}
    (width : (QImage.width image).toInt ≤ limit) (height : (QImage.height image).toInt ≤ limit) :
    (createXorMask image).length ≤ 4 * (limit * limit) := by
  rw [← QImage.width_converted] at width
  rw [← QImage.height_converted] at height
  have area := Nat.mul_le_mul (Int.ofNat_le.mp width) (Int.ofNat_le.mp height)
  rw [createXorMask, Argb32Image.length_bits]
  exact Nat.mul_le_mul_left 4 area

/-- Both messages for an image store it under its id and show it. -/
theorem receive_pointerImage (client : Client) {cursor : CursorUpdate Image}
    (hotspot : HotspotFits cursor.hotspot) (small : ¬oversized cursor.image)
    (id : cursor.cacheId.toNat < 2 ^ 16) :
    client.receive (pointerImage cursor) =
      client.store cursor.cacheId.toNat (.ofUpdate cursor) := by
  have index : cursor.cacheId.toUInt16.toNat = cursor.cacheId.toNat := by
    rw [UInt32.toNat_toUInt16, Nat.mod_eq_of_lt id]
  unfold pointerImage
  split
  · rename_i tiny
    obtain ⟨width, height⟩ := tiny
    rw [Int32.lt_iff_toInt_lt] at width height
    change _ < (96 : Int) at width
    change _ < (96 : Int) at height
    have length := @length_createXorMask_le _ _ cursor.image 95 (by omega) (by omega)
    have fits : (UInt16.ofNat (createXorMask cursor.image).length).toNat =
        (createXorMask cursor.image).length :=
      UInt16.toNat_ofNat_of_lt' (by change _ < 2 ^ 16; omega)
    simp only [pointerNew, Client.receive]
    rw [index, ofMask_createXorMask hotspot small fits]
  · obtain ⟨width, height⟩ := not_or.mp small
    rw [Int32.lt_iff_toInt_lt] at width height
    change ¬(384 : Int) < _ at width
    change ¬(384 : Int) < _ at height
    have length := @length_createXorMask_le _ _ cursor.image 384 (by omega) (by omega)
    have fits : (UInt32.ofNat (createXorMask cursor.image).length).toNat =
        (createXorMask cursor.image).length :=
      UInt32.toNat_ofNat_of_lt' (by change _ < 2 ^ 32; omega)
    simp only [pointerLarge, Client.receive]
    rw [index, ofMask_createXorMask hotspot small fits]

theorem receive_pointerCached {client : Client} {cacheIndex : UInt32} {pointer : Pointer}
    (filled : client.slots cacheIndex.toNat = some pointer) :
    client.receive (.pointerCached cacheIndex) = { client with shown := .pointer pointer } := by
  simp only [Client.receive, filled]

/-! ### One call -/

variable {cacheSize : UInt32} {d : Private Image}

theorem Holds.of_slots {cursorCache : CursorCache Image} {before after : Client}
    (holds : Holds cursorCache before) (slots : after.slots = before.slots) :
    Holds cursorCache after := by
  intro key entry lookup
  rw [slots]
  exact holds key entry lookup

theorem Continues.refl (mirrors : Mirrors cacheSize d (clientOf d)) : Continues cacheSize d d :=
  ⟨mirrors, .refl _ _⟩

theorem Continues.trans {first second third : Private Image}
    (before : Continues cacheSize first second) (after : Continues cacheSize second third) :
    Continues cacheSize first third :=
  ⟨after.mirrors, before.extends_sent.trans after.extends_sent⟩

theorem continues_systemDefault (mirrors : Mirrors cacheSize d (clientOf d)) :
    Continues cacheSize d (setCursorType .systemDefault d) ∧
      (clientOf (setCursorType .systemDefault d)).shown = .system .default := by
  unfold setCursorType
  split
  · rename_i already
    exact ⟨.refl mirrors, mirrors.systemShown already⟩
  · have client := clientOf_send (.pointerSystem .default)
      { d with
        cursorType := .systemDefault
        lastUsedCursor := none }
    have shown := congrArg Client.shown client
    have slots := congrArg Client.slots client
    refine ⟨⟨⟨mirrors.dense, mirrors.holds.of_slots slots, ?_, ?_, ?_⟩, ?_⟩, shown⟩
    · intro key none
      contradiction
    · exact CursorType.noConfusion
    · exact fun _ => shown
    · exact .of_action trivial

theorem continues_image (mirrors : Mirrors cacheSize d (clientOf d)) :
    Continues cacheSize d (setCursorType .image d) ∧
      (setCursorType .image d).cursorType = .image := by
  unfold setCursorType
  split
  · rename_i already
    exact ⟨.refl mirrors, already⟩
  · refine ⟨⟨⟨mirrors.dense, mirrors.holds, mirrors.lastShown, ?_, ?_⟩, .refl _ _⟩, rfl⟩
    · exact CursorType.noConfusion
    · exact CursorType.noConfusion

private theorem holds_touch {key : UInt32} {entry : CursorUpdate Image} (now : Int)
    {client : Client} (holds : Holds d.cursorCache client)
    (found : d.cursorCache.lookup key = some entry) :
    Holds (touch key entry now d).cursorCache client := by
  intro other stored lookup
  rcases CursorCache.lookup_insert_eq_some.mp lookup with ⟨rfl, rfl⟩ | ⟨_, before⟩
  · exact holds other entry found
  · exact holds other stored before

theorem continues_touch {key : UInt32} {entry : CursorUpdate Image} (now : Int)
    (mirrors : Mirrors cacheSize d (clientOf d)) (found : d.cursorCache.lookup key = some entry) :
    Continues cacheSize d (touch key entry now d) := by
  refine ⟨⟨dense_touch now mirrors.dense found, holds_touch now mirrors.holds found, ?_,
    mirrors.visible, mirrors.systemShown⟩, .refl _ _⟩
  intro last lastUsed
  obtain ⟨shownEntry, stored, shown⟩ := mirrors.lastShown last lastUsed
  by_cases same : last = key
  · obtain rfl : entry = shownEntry := by
      rw [same, found] at stored
      exact Option.some.inj stored
    exact ⟨{ entry with lastUsed := now }, by rw [same]; exact AList.lookup_insert _, shown⟩
  · exact ⟨shownEntry, (AList.lookup_insert_ne same).trans stored, shown⟩

theorem continues_showCached {key : UInt32} {entry : CursorUpdate Image} (now : Int)
    (mirrors : Mirrors cacheSize d (clientOf d)) (found : d.cursorCache.lookup key = some entry)
    (type : d.cursorType = .image) :
    Continues cacheSize d (showCached key entry now d) ∧
      (clientOf (showCached key entry now d)).shown = .pointer (.ofUpdate entry) := by
  have cacheId := mirrors.dense.cacheIds key entry found
  have filled : (clientOf d).slots entry.cacheId.toNat = some (.ofUpdate entry) := by
    rw [cacheId]
    exact mirrors.holds key entry found
  have client : clientOf (showCached key entry now d) =
      { clientOf d with shown := .pointer (.ofUpdate entry) } :=
    (clientOf_send _ _).trans (receive_pointerCached filled)
  have shown := congrArg Client.shown client
  have slots := congrArg Client.slots client
  refine ⟨⟨⟨dense_touch now mirrors.dense found,
    (holds_touch now mirrors.holds found).of_slots slots, ?_, mirrors.visible, ?_⟩, ?_⟩, shown⟩
  · rintro last ⟨⟩
    exact ⟨{ entry with lastUsed := now }, AList.lookup_insert _, shown⟩
  · intro system
    exact CursorType.noConfusion (type.symm.trans system)
  · refine .of_action ⟨?_, ?_⟩
    · rw [cacheId]
      exact ((mirrors.dense.ids key).mp (mem_of_lookup found)).trans_le mirrors.dense.bounded
    · exact Option.isSome_iff_exists.mpr ⟨_, filled⟩

theorem continues_showNew {newCursor : CursorUpdate Image} {cursorCache : CursorCache Image}
    (mirrors : Mirrors cacheSize d (clientOf d)) (hotspot : HotspotFits newCursor.hotspot)
    (small : ¬oversized newCursor.image) (narrow : cacheSize.toNat < 2 ^ 16)
    (allocates : Allocates cacheSize d.cursorCache (newCursor.cacheId, cursorCache))
    (type : d.cursorType = .image) :
    Continues cacheSize d (showNew newCursor cursorCache d) ∧
      (clientOf (showNew newCursor cursorCache d)).shown = .pointer (.ofUpdate newCursor) := by
  have bounded : newCursor.cacheId.toNat < cacheSize.toNat := allocates.bounded
  have stored : clientOf (send (pointerImage newCursor) d) =
      (clientOf d).store newCursor.cacheId.toNat (.ofUpdate newCursor) :=
    (clientOf_send _ _).trans (receive_pointerImage _ hotspot small (bounded.trans narrow))
  have filled : (clientOf (send (pointerImage newCursor) d)).slots newCursor.cacheId.toNat =
      some (.ofUpdate newCursor) := by
    rw [stored]
    exact if_pos rfl
  have client : clientOf (showNew newCursor cursorCache d) =
      (clientOf d).store newCursor.cacheId.toNat (.ofUpdate newCursor) := by
    refine (clientOf_send _ _).trans ((receive_pointerCached filled).trans ?_)
    rw [stored]
    rfl
  have shown := congrArg Client.shown client
  refine ⟨⟨⟨allocates.completes newCursor rfl, ?_, ?_, mirrors.visible, ?_⟩, ?_⟩, shown⟩
  · intro key entry lookup
    rw [client]
    rcases CursorCache.lookup_insert_eq_some.mp lookup with ⟨rfl, rfl⟩ | ⟨_, kept⟩
    · exact if_pos rfl
    · obtain ⟨different, before⟩ := allocates.keeps key entry kept
      have otherSlot : key.toNat ≠ newCursor.cacheId.toNat := fun same =>
        different (UInt32.toNat_inj.mp same)
      exact (if_neg otherSlot).trans (mirrors.holds key entry before)
  · rintro last ⟨⟩
    exact ⟨newCursor, AList.lookup_insert _, shown⟩
  · intro system
    exact CursorType.noConfusion (type.symm.trans system)
  · have image : StepRun.Extends Client.receive (Acceptable cacheSize) {} d.sent
        (send (pointerImage newCursor) d).sent := by
      refine .of_action ?_
      have index : newCursor.cacheId.toUInt16.toNat = newCursor.cacheId.toNat := by
        rw [UInt32.toNat_toUInt16, Nat.mod_eq_of_lt (bounded.trans narrow)]
      unfold pointerImage
      split
      · exact index.trans_lt bounded
      · exact index.trans_lt bounded
    exact image.trans (.of_action ⟨bounded, Option.isSome_iff_exists.mpr ⟨_, filled⟩⟩)

/-! ### Every call -/

theorem mirrors_initial :
    Mirrors cacheSize ({} : Private Image) (clientOf ({} : Private Image)) := by
  refine ⟨⟨Nat.zero_le _, ?_, ?_⟩, ?_, ?_, CursorType.noConfusion, fun _ => rfl⟩
  · intro key
    simp [CursorCache.size]
  · intro key entry lookup
    simp at lookup
  · intro key entry lookup
    simp at lookup
  · intro key none
    contradiction

section Requests

variable [DecidableEq Image]

theorem findCached_spec {order : HashOrder Image} {update : CursorUpdate Image}
    {cursorCache : CursorCache Image} {entry : CacheEntry Image}
    (found : findCached order update cursorCache = some entry) :
    cursorCache.lookup entry.1 = some entry.2 ∧
      Pointer.ofUpdate entry.2 = Pointer.ofUpdate update := by
  unfold findCached at found
  have same := List.find?_some found
  obtain ⟨hotspot, image⟩ := (same_iff _ _).mp same
  exact ⟨order.lookup_of_mem (List.mem_of_find?_eq_some found),
    Pointer.ofUpdate_congr hotspot.symm image.symm⟩

theorem continues_showOther (session : Session) (order : HashOrder Image) (now : Int)
    {update : CursorUpdate Image}
    (mirrors : Mirrors session.pointerCacheSize d (clientOf d))
    (positive : 0 < session.pointerCacheSize) (narrow : session.pointerCacheSize.toNat < 2 ^ 16)
    (hotspot : HotspotFits update.hotspot) (small : ¬oversized update.image)
    (type : d.cursorType = .image) :
    Continues session.pointerCacheSize d (showOther session order now update d) ∧
      (clientOf (showOther session order now update d)).shown = .pointer (.ofUpdate update) := by
  unfold showOther
  cases found : findCached order update d.cursorCache with
  | some entry =>
      obtain ⟨stored, same⟩ := findCached_spec found
      rw [← same]
      exact continues_showCached now mirrors stored type
  | none =>
      have allocates := allocate_allocates session order mirrors.dense positive
      exact continues_showNew mirrors hotspot small narrow allocates type

theorem continues_showImage (session : Session) (order : HashOrder Image) (now : Int)
    {update : CursorUpdate Image}
    (mirrors : Mirrors session.pointerCacheSize d (clientOf d))
    (positive : 0 < session.pointerCacheSize) (narrow : session.pointerCacheSize.toNat < 2 ^ 16)
    (hotspot : HotspotFits update.hotspot) (small : ¬oversized update.image)
    (type : d.cursorType = .image) :
    Continues session.pointerCacheSize d (showImage session order now update d) ∧
      (clientOf (showImage session order now update d)).shown = .pointer (.ofUpdate update) := by
  have other := continues_showOther session order now mirrors positive narrow hotspot small type
  unfold showImage Private.lastUsed
  cases last : d.lastUsedCursor with
  | none => exact other
  | some key =>
      obtain ⟨entry, stored, shown⟩ := mirrors.lastShown key last
      simp only [Option.bind_some, stored]
      split
      · rename_i same
        obtain ⟨hotspotEq, imageEq⟩ := (same_iff _ _).mp same
        rw [← Pointer.ofUpdate_congr hotspotEq imageEq]
        exact ⟨continues_touch now mirrors stored, shown⟩
      · exact other

/-- Every exit of a call leaves the client with what was asked for. -/
theorem continues_step (mirrors : Mirrors cacheSize d (clientOf d)) (positive : 0 < cacheSize)
    (narrow : cacheSize.toNat < 2 ^ 16) {request : Request Image}
    (hotspot : HotspotFits request.update.hotspot) :
    Continues cacheSize d (step cacheSize d request) ∧
      (clientOf (step cacheSize d request)).shown = requested (clientOf d).shown request := by
  unfold step update requested
  rw [if_neg (not_not_intro rfl)]
  split
  · exact ⟨.refl mirrors, rfl⟩
  · split
    · exact continues_systemDefault mirrors
    · rename_i small
      obtain ⟨entered, type⟩ := continues_image mirrors
      obtain ⟨continues, shown⟩ := continues_showImage
        { state := .streaming
          pointerCacheSize := cacheSize }
        request.order request.now entered.mirrors positive narrow hotspot small type
      exact ⟨entered.trans continues, shown⟩

/-! ### Every run of calls -/

private theorem continues_run (mirrors : Mirrors cacheSize d (clientOf d))
    (positive : 0 < cacheSize) (narrow : cacheSize.toNat < 2 ^ 16)
    {requests : List (Request Image)}
    (hotspots : ∀ request ∈ requests, HotspotFits request.update.hotspot) :
    Continues cacheSize d (StepRun.run (step cacheSize) d requests) ∧
      (clientOf (StepRun.run (step cacheSize) d requests)).shown =
        requests.foldl requested (clientOf d).shown := by
  induction requests generalizing d with
  | nil => exact ⟨.refl mirrors, rfl⟩
  | cons request rest ih =>
      obtain ⟨here, later⟩ := List.forall_mem_cons.mp hotspots
      obtain ⟨continues, shown⟩ := continues_step mirrors positive narrow here
      obtain ⟨continuesRest, shownRest⟩ := ih continues.mirrors later
      refine ⟨continues.trans continuesRest, ?_⟩
      rw [StepRun.run_cons, shownRest, shown, List.foldl_cons]

/-- After every sequence of calls on a streaming connection the client shows the
cursor requested last, has only been sent acceptable messages, and holds the
server's cache in the slots numbered from zero. -/
theorem client_shows_requested (positive : 0 < cacheSize) (narrow : cacheSize.toNat < 2 ^ 16)
    (requests : List (Request Image))
    (hotspots : ∀ request ∈ requests, HotspotFits request.update.hotspot) :
    let d := StepRun.run (step cacheSize) {} requests
    (clientOf d).shown = requests.foldl requested (.system .default) ∧
      StepRun.Along Client.receive (Acceptable cacheSize) {} d.sent ∧
      Holds d.cursorCache (clientOf d) ∧
      Dense cacheSize d.cursorCache := by
  obtain ⟨continues, shown⟩ := continues_run mirrors_initial positive narrow hotspots
  obtain ⟨added, sent, along⟩ := continues.extends_sent
  refine ⟨shown, ?_, continues.mirrors.holds, continues.mirrors.dense⟩
  rw [sent]
  exact along

end Requests

end Simulation

/-! ### A run through every exit -/

def tableOrder : HashOrder Image where
  entries cursorCache := cursorCache.entries
  perm _ := .refl _

def squareRequest (side : Nat) (fits : side < 2 ^ 31) (pixel : Argb32) (now : Int) :
    Request Sized :=
  { update :=
      { hotspot := { x := 1, y := 2 }
        image := ⟨.fill side side pixel, fits, fits⟩ }
    now := now
    order := tableOrder }

def black : Argb32 := { alpha := 255, red := 0, green := 0, blue := 0 }

/-- Two cursors in one slot, the first repeated and the second shown again after
an oversized one. -/
def sharedSlotRequests : List (Request Sized) :=
  [squareRequest 2 (by decide) black 1, squareRequest 2 (by decide) black 2,
    squareRequest 3 (by decide) black 2, squareRequest 400 (by decide) black 3,
    squareRequest 3 (by decide) black 4]

theorem client_shows_requested_sharedSlot :
    let d := StepRun.run (step 1) {} sharedSlotRequests
    (clientOf d).shown = sharedSlotRequests.foldl requested (.system .default) ∧
      StepRun.Along Client.receive (Acceptable 1) {} d.sent ∧
      Holds d.cursorCache (clientOf d) ∧
      Dense 1 d.cursorCache := by
  refine client_shows_requested (by decide) (by decide) sharedSlotRequests ?_
  simp only [sharedSlotRequests, List.forall_mem_cons, List.not_mem_nil, false_imp_iff,
    implies_true, and_true]
  decide

end Cursor

end KRdp
