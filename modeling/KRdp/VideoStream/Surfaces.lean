/-
Surface bookkeeping against the client.

The client is replayed from the log of channel calls: a call that failed has no
effect there, except that deletions are taken to succeed.  A reset can stop in
the middle, so `surfaces` is compared with the client after every operation and
not only after a completed reset; the pending flag tells the two apart.
-/

import KRdp.Library.MachineInt
import KRdp.Library.Run
import KRdp.VideoStream.Reset
import Mathlib.Data.List.Forall2
import Mathlib.Data.List.Nodup

namespace KRdp

open MachineInt

namespace VideoStream

/-! ### The client -/

/-- A live surface; `mappedAt` numbers the `ResetGraphics` it was last mapped
after. -/
structure ClientSurface where
  id : UInt16
  width : UInt16
  height : UInt16
  mappedAt : Option Nat := none
  deriving DecidableEq, Repr

structure Client where
  live : List ClientSurface := []
  resets : Nat := 0
  deriving DecidableEq, Repr

def ClientSurface.map (surfaceId : UInt16) (resets : Nat) (surface : ClientSurface) :
    ClientSurface :=
  if surface.id == surfaceId then { surface with mappedAt := some resets } else surface

def Client.receive (client : Client) : Call → Client
  | .gfx (.deleteSurface surfaceId) _ =>
      { client with live := client.live.filter fun surface => surface.id != surfaceId }
  | .gfx (.resetGraphics _) status =>
      if status == channelRcOk then { client with resets := client.resets + 1 } else client
  | .gfx (.createSurface pdu) status =>
      if status == channelRcOk then
        { client with
          live := client.live ++
            [{ id := pdu.surfaceId, width := pdu.width, height := pdu.height }] }
      else client
  | .gfx (.mapSurfaceToOutput pdu) status =>
      if status == channelRcOk then
        { client with live := client.live.map (ClientSurface.map pdu.surfaceId client.resets) }
      else client
  | _ => client

def clientOf (d : Private) : Client := StepRun.run Client.receive {} d.calls

/-- Mapped after the latest successful `ResetGraphics`. -/
def ClientSurface.Mapped (client : Client) (surface : ClientSurface) : Prop :=
  0 < client.resets ∧ surface.mappedAt = some client.resets

def ClientSurface.HasSize (surface : ClientSurface) (size : QSize) : Prop :=
  (surface.width.toNat : Int) = size.width.toInt ∧
    (surface.height.toNat : Int) = size.height.toInt

def SameSurface (client : ClientSurface) (server : Surface) : Prop :=
  client.id = server.id ∧ client.HasSize server.size

/-- The surface list is the client's list, with pairwise distinct ids. -/
structure Agrees (client : Client) (surfaces : List Surface) : Prop where
  listed : List.Forall₂ SameSurface client.live surfaces
  distinct : (surfaces.map Surface.id).Nodup

/-- A `SurfaceCommand` names a live and mapped surface of the frame's size. -/
def Drawable (frame : VideoFrame) (client : Client) : Call → Prop
  | .gfx (.surfaceCommand command) _ =>
      ∃ surface ∈ client.live, surface.id = command.surfaceId ∧
        surface.Mapped client ∧ surface.HasSize frame.size
  | _ => True

/-! ### Operations of the stream -/

inductive Operation where
  | sendFrame (frame : VideoFrame)
  | setMonitorLayout (monitors : DisplayMonitorList)
  | reset
  deriving DecidableEq, Repr

def perform (channel : Channel) (d : Private) : Operation → Private
  | .sendFrame frame => sendFrame channel frame d
  | .setMonitorLayout monitors => setMonitorLayout monitors d
  | .reset => reset d

def Operation.Allows : Operation → Client → Call → Prop
  | .sendFrame frame => Drawable frame
  | _ => fun _ _ => False

def WithinWire (size : QSize) : Prop :=
  (1 ≤ size.width.toInt ∧ size.width.toInt ≤ 65535) ∧
    (1 ≤ size.height.toInt ∧ size.height.toInt ≤ 65535)

def LayoutWithinWire (layout : DisplayMonitorList) : Prop :=
  layout.length < 2 ^ 16 ∧ ∀ monitor ∈ layout, WithinWire monitor.size

def Operation.WithinWire : Operation → Prop
  | .sendFrame frame => VideoStream.WithinWire frame.size
  | .setMonitorLayout monitors => LayoutWithinWire monitors
  | .reset => True

/-- The calls one state makes on top of another, all of them allowed. -/
def Grows (allowed : Client → Call → Prop) (before after : Private) : Prop :=
  StepRun.Extends Client.receive allowed {} before.calls after.calls

def Performs (channel : Channel) (d : Private) (operation : Operation) : Prop :=
  Agrees (clientOf (perform channel d operation)) (perform channel d operation).surfaces ∧
    Grows operation.Allows d (perform channel d operation)

/-! ### Replaying the log -/

theorem clientOf_append {before after : Private} {emitted : List Call}
    (calls : after.calls = before.calls ++ emitted) :
    clientOf after = StepRun.run Client.receive (clientOf before) emitted := by
  rw [clientOf, calls, StepRun.run_append]
  rfl

theorem clientOf_send (channel : Channel) (pdu : GfxPdu) (d : Private) :
    clientOf (send channel pdu d).2 =
      (clientOf d).receive (.gfx pdu (send channel pdu d).1) :=
  clientOf_append (send_calls channel pdu d)

section Growth

variable {allowed : Client → Call → Prop}

theorem Grows.refl (d : Private) : Grows allowed d d := by
  unfold Grows
  exact .refl ({} : Client) d.calls

theorem Grows.trans {first second third : Private} (before : Grows allowed first second)
    (after : Grows allowed second third) : Grows allowed first third :=
  StepRun.Extends.trans before after

theorem Grows.of_call {before after : Private} (call : Call)
    (calls : after.calls = before.calls ++ [call]) (allows : allowed (clientOf before) call) :
    Grows allowed before after := by
  unfold Grows
  rw [calls]
  exact .of_action allows

end Growth

/-! ### Deleting the surfaces -/

private theorem live_ids {live : List ClientSurface} {surfaces : List Surface}
    (listed : List.Forall₂ SameSurface live surfaces) :
    live.map ClientSurface.id = surfaces.map Surface.id := by
  induction listed with
  | nil => rfl
  | cons same _ ih => rw [List.map_cons, List.map_cons, same.1, ih]

private theorem foldl_delete (channel : Channel) (frame : VideoFrame) (surfaces : List Surface)
    (d : Private) :
    let deleted := surfaces.foldl
      (fun d surface => (send channel (.deleteSurface surface.id) d).2) d
    Grows (Drawable frame) d deleted ∧
      (clientOf deleted).live =
        (clientOf d).live.filter (fun surface => surface.id ∉ surfaces.map Surface.id) := by
  induction surfaces generalizing d with
  | nil => exact ⟨.refl d, by simp⟩
  | cons surface rest ih =>
      obtain ⟨grows, live⟩ := ih (send channel (.deleteSurface surface.id) d).2
      refine ⟨(Grows.of_call _ (send_calls _ _ _) trivial).trans grows, ?_⟩
      rw [List.foldl_cons, live, clientOf_send, Client.receive, List.filter_filter]
      apply List.filter_congr
      intro other _
      rw [Bool.eq_iff_iff]
      simp [and_comm]

theorem deleteSurfaces_live (channel : Channel) (frame : VideoFrame) {d : Private}
    (agrees : Agrees (clientOf d) d.surfaces) :
    Grows (Drawable frame) d (deleteSurfaces channel d) ∧
      (clientOf (deleteSurfaces channel d)).live = [] := by
  obtain ⟨grows, live⟩ := foldl_delete channel frame d.surfaces d
  refine ⟨grows, ?_⟩
  have ids := live_ids agrees.listed
  have emptied : (clientOf (deleteSurfaces channel d)).live =
      (clientOf d).live.filter (fun surface => surface.id ∉ d.surfaces.map Surface.id) := live
  rw [emptied, List.filter_eq_nil_iff]
  intro surface member
  rw [← ids, decide_eq_true_eq, not_not]
  exact List.mem_map_of_mem member

/-! ### Creating the surfaces -/

/-- The id of the surface created as number `index` of a reset. -/
def consecutive (firstId : UInt16) (index : Nat) : UInt16 := firstId + UInt16.ofNat index

theorem consecutive_succ (firstId : UInt16) (index : Nat) :
    consecutive firstId index + 1 = consecutive firstId (index + 1) := by
  rw [consecutive, consecutive, UInt16.ofNat_add, ← UInt16.add_assoc]
  rfl

/-- Ids repeat only after a whole cycle. -/
theorem consecutive_nodup (firstId : UInt16) {count : Nat} (small : count ≤ 2 ^ 16) :
    ((List.range count).map (consecutive firstId)).Nodup := by
  refine List.Nodup.map_on ?_ List.nodup_range
  intro first firstMember second secondMember same
  rw [List.mem_range] at firstMember secondMember
  have offsets : UInt16.ofNat first = UInt16.ofNat second := (UInt16.add_right_inj firstId).mp same
  have numbers := congrArg UInt16.toNat offsets
  rw [UInt16.toNat_ofNat', UInt16.toNat_ofNat'] at numbers
  omega

theorem hasSize_created {surfaceSize : QSize} (within : WithinWire surfaceSize)
    (surfaceId : UInt16) (mappedAt : Option Nat) :
    ClientSurface.HasSize
      { id := surfaceId
        width := (createSurfacePdu surfaceId surfaceSize).width
        height := (createSurfacePdu surfaceId surfaceSize).height
        mappedAt := mappedAt } surfaceSize := by
  obtain ⟨⟨wide, narrow⟩, ⟨high, low⟩⟩ := within
  exact ⟨toNat_toUInt16_of_lt (by omega) (by omega), toNat_toUInt16_of_lt (by omega) (by omega)⟩

/-- The surface list as far as a reset got, its ids counted from the first one. -/
structure Built (firstId : UInt16) (d : Private) : Prop where
  listed : List.Forall₂ SameSurface (clientOf d).live d.surfaces
  ids : d.surfaces.map Surface.id = (List.range d.surfaces.length).map (consecutive firstId)

/-- Before each round of the surface loop, all surfaces are mapped. -/
structure Building (firstId : UInt16) (d : Private) : Prop extends Built firstId d where
  next : d.nextSurfaceId = consecutive firstId d.surfaces.length
  resets : 0 < (clientOf d).resets
  mapped : ∀ surface ∈ (clientOf d).live, surface.Mapped (clientOf d)

theorem Built.agrees {firstId : UInt16} {d : Private} (built : Built firstId d)
    (small : d.surfaces.length ≤ 2 ^ 16) : Agrees (clientOf d) d.surfaces := by
  refine ⟨built.listed, ?_⟩
  rw [built.ids]
  exact consecutive_nodup firstId small

theorem Building.createFailed {firstId : UInt16} {d : Private} (building : Building firstId d)
    (channel : Channel) (surfaceSize : QSize)
    (failed : (send channel (.createSurface (createSurfacePdu d.nextSurfaceId surfaceSize))
      (takeSurfaceId d)).1 ≠ channelRcOk) :
    Built firstId (send channel
      (.createSurface (createSurfacePdu d.nextSurfaceId surfaceSize)) (takeSurfaceId d)).2 := by
  refine ⟨?_, building.ids⟩
  rw [clientOf_send, Client.receive, beq_eq_false_iff_ne.mpr failed]
  exact building.listed

theorem Building.created {firstId : UInt16} {d created : Private}
    (building : Building firstId d) {surfaceSize : QSize} (within : WithinWire surfaceSize)
    (calls : created.calls = d.calls ++
      [.gfx (.createSurface (createSurfacePdu d.nextSurfaceId surfaceSize)) channelRcOk])
    (surfaces : created.surfaces =
      d.surfaces ++ [{ id := d.nextSurfaceId, size := surfaceSize }]) :
    Built firstId created ∧ (clientOf created).resets = (clientOf d).resets ∧
      ∀ surface ∈ (clientOf created).live,
        surface ∈ (clientOf d).live ∨ surface.id = d.nextSurfaceId := by
  have client : clientOf created = (clientOf d).receive
      (.gfx (.createSurface (createSurfacePdu d.nextSurfaceId surfaceSize)) channelRcOk) :=
    clientOf_append calls
  rw [Client.receive, beq_self_eq_true, if_pos rfl] at client
  refine ⟨⟨?_, ?_⟩, by rw [client], ?_⟩
  · rw [client, surfaces]
    exact List.rel_append building.listed (.cons ⟨rfl, hasSize_created within _ _⟩ .nil)
  · rw [surfaces, List.map_append, List.length_append, List.length_singleton, List.range_succ,
      List.map_append, ← building.ids]
    exact congrArg (_ ++ [·]) building.next
  · rw [client]
    intro surface member
    rcases List.mem_append.mp member with old | new
    · exact .inl old
    · rw [List.mem_singleton.mp new]
      exact .inr rfl

theorem Built.mapped {firstId : UInt16} {d after : Private} (built : Built firstId d)
    {pdu : MapSurfaceToOutputPdu} {status : UInt32}
    (calls : after.calls = d.calls ++ [.gfx (.mapSurfaceToOutput pdu) status])
    (surfaces : after.surfaces = d.surfaces) : Built firstId after := by
  refine ⟨?_, by rw [surfaces, built.ids]⟩
  rw [clientOf_append calls, surfaces, StepRun.run_cons, StepRun.run_nil, Client.receive]
  split
  · rw [List.forall₂_map_left_iff]
    refine built.listed.imp ?_
    intro surface server same
    rw [ClientSurface.map]
    split <;> exact same
  · exact built.listed

theorem Building.round {firstId : UInt16} {d created after : Private}
    (building : Building firstId d) {surfaceSize : QSize} (within : WithinWire surfaceSize)
    {outputPosition : QPoint}
    (createCalls : created.calls = d.calls ++
      [.gfx (.createSurface (createSurfacePdu d.nextSurfaceId surfaceSize)) channelRcOk])
    (createSurfaces : created.surfaces =
      d.surfaces ++ [{ id := d.nextSurfaceId, size := surfaceSize }])
    (mapCalls : after.calls = created.calls ++
      [.gfx (.mapSurfaceToOutput (mapSurfaceToOutputPdu d.nextSurfaceId outputPosition))
        channelRcOk])
    (mapSurfaces : after.surfaces = created.surfaces)
    (next : after.nextSurfaceId = d.nextSurfaceId + 1) : Building firstId after := by
  obtain ⟨built, resets, members⟩ := building.created within createCalls createSurfaces
  have client : clientOf after = { clientOf created with
      live := (clientOf created).live.map
        (ClientSurface.map d.nextSurfaceId (clientOf created).resets) } :=
    clientOf_append mapCalls
  refine ⟨built.mapped mapCalls mapSurfaces, ?_, ?_, ?_⟩
  · rw [next, mapSurfaces, createSurfaces, building.next, consecutive_succ,
      List.length_append, List.length_singleton]
  · rw [client]
    exact resets ▸ building.resets
  · intro surface member
    rw [client] at member ⊢
    obtain ⟨source, sourceMember, rfl⟩ := List.mem_map.mp member
    refine ⟨resets ▸ building.resets, ?_⟩
    rw [ClientSurface.map]
    split
    · rfl
    · rename_i otherId
      rcases members source sourceMember with old | new
      · exact (building.mapped source old).2.trans (congrArg some resets.symm)
      · exact absurd (beq_iff_eq.mpr new) otherId

theorem createSurfaces_built (channel : Channel) (frame : VideoFrame) {firstId : UInt16}
    {outputs : List (QSize × QPoint)} {d : Private}
    (within : ∀ output ∈ outputs, WithinWire output.1) (building : Building firstId d) :
    let outcome := createSurfaces channel outputs d
    Built firstId outcome.2 ∧
      outcome.2.surfaces.length ≤ d.surfaces.length + outputs.length ∧
      Grows (Drawable frame) d outcome.2 ∧
      (outcome.1 = true → Building firstId outcome.2) := by
  induction outputs generalizing d with
  | nil => exact ⟨building.toBuilt, le_rfl, .refl d, fun _ => building⟩
  | cons output rest ih =>
      obtain ⟨surfaceSize, outputPosition⟩ := output
      obtain ⟨here, later⟩ := List.forall_mem_cons.mp within
      let created := send channel
        (.createSurface (createSurfacePdu d.nextSurfaceId surfaceSize)) (takeSurfaceId d)
      let listed := listSurface { id := d.nextSurfaceId, size := surfaceSize } created.2
      let mapped := send channel
        (.mapSurfaceToOutput (mapSurfaceToOutputPdu d.nextSurfaceId outputPosition)) listed
      have createGrows : Grows (Drawable frame) d listed :=
        .of_call (.gfx (.createSurface (createSurfacePdu d.nextSurfaceId surfaceSize)) created.1)
          rfl trivial
      have mapGrows : Grows (Drawable frame) d mapped.2 :=
        createGrows.trans (.of_call _ (send_calls _ _ _) trivial)
      have listedLength : listed.surfaces.length = d.surfaces.length + 1 :=
        List.length_append
      simp only [createSurfaces]
      split
      · rename_i failed
        refine ⟨building.createFailed channel surfaceSize (bne_iff_ne.mp failed),
          Nat.le_add_right _ _, createGrows, by simp⟩
      · rename_i succeeded
        have createOk : created.1 = channelRcOk := by simpa using succeeded
        have createCalls : listed.calls = d.calls ++
            [.gfx (.createSurface (createSurfacePdu d.nextSurfaceId surfaceSize))
              channelRcOk] := by
          rw [← createOk]
          rfl
        obtain ⟨built, _, _⟩ := building.created here createCalls rfl
        split
        · refine ⟨built.mapped (send_calls _ _ _) rfl, ?_, mapGrows, by simp⟩
          rw [List.length_cons]
          exact listedLength.le.trans (by omega)
        · rename_i mapSucceeded
          have mapOk : mapped.1 = channelRcOk := by simpa using mapSucceeded
          have mapCalls : mapped.2.calls = listed.calls ++
              [.gfx (.mapSurfaceToOutput (mapSurfaceToOutputPdu d.nextSurfaceId outputPosition))
                channelRcOk] := by
            rw [← mapOk]
            rfl
          obtain ⟨restBuilt, restLength, restGrows, restBuilding⟩ :=
            ih later (building.round here createCalls rfl mapCalls rfl rfl)
          have mappedLength : mapped.2.surfaces.length = d.surfaces.length + 1 := listedLength
          refine ⟨restBuilt, restLength.trans ?_, mapGrows.trans restGrows, restBuilding⟩
          rw [mappedLength, List.length_cons]
          omega

/-! ### Resets and frames -/

/-- What holds after every operation: the lists agree, and unless a reset is
pending, every surface is mapped. -/
structure Synced (d : Private) : Prop where
  agrees : Agrees (clientOf d) d.surfaces
  mapped : d.pendingReset = false →
    ∀ surface ∈ (clientOf d).live, surface.Mapped (clientOf d)
  layout : LayoutWithinWire d.monitorLayout

theorem surfaceOutputs_within {layout : DisplayMonitorList} {frame : VideoFrame}
    (sizes : LayoutWithinWire layout) (frameSize : WithinWire frame.size)
    (passes : matchesLayout layout frame = true) :
    (surfaceOutputs layout frame).length < 2 ^ 16 ∧
      ∀ output ∈ surfaceOutputs layout frame, WithinWire output.1 := by
  simp only [matchesLayout] at passes
  simp only [surfaceOutputs]
  split
  · refine ⟨by rw [List.length_map]; exact sizes.1, ?_⟩
    intro output member
    obtain ⟨monitor, monitorMember, rfl⟩ := List.mem_map.mp member
    exact sizes.2 monitor monitorMember
  · rename_i whole
    rw [if_neg whole] at passes
    refine ⟨by rw [List.length_singleton]; decide, ?_⟩
    intro output member
    rw [List.mem_singleton.mp member, beq_iff_eq.mp passes]
    exact frameSize

theorem resetLayout_within {copied : DisplayMonitorList} {frame : VideoFrame}
    (sizes : LayoutWithinWire copied) (frameSize : WithinWire frame.size) :
    LayoutWithinWire (resetLayout copied frame) := by
  rw [resetLayout]
  split
  · refine ⟨by rw [List.length_singleton]; decide, ?_⟩
    intro monitor member
    rw [List.mem_singleton.mp member]
    exact frameSize
  · exact sizes

/-- The reset up to `ResetGraphics`: nothing is listed and nothing is live. -/
theorem publishLayout_agrees (channel : Channel) (layout : DisplayMonitorList)
    (frame : VideoFrame) {d : Private} (agrees : Agrees (clientOf d) d.surfaces)
    (few : (surfaceOutputs layout frame).length < 2 ^ 16)
    (within : ∀ output ∈ surfaceOutputs layout frame, WithinWire output.1) :
    let outcome := publishLayout channel layout frame d
    Agrees (clientOf outcome.2) outcome.2.surfaces ∧
      Grows (Drawable frame) d outcome.2 ∧
      (outcome.1 = true →
        ∀ surface ∈ (clientOf outcome.2).live, surface.Mapped (clientOf outcome.2)) := by
  obtain ⟨deleteGrows, emptied⟩ := deleteSurfaces_live channel frame agrees
  let published := send channel (.resetGraphics (resetGraphicsPdu layout))
    (deleteSurfaces channel d)
  have client : clientOf published.2 = (clientOf (deleteSurfaces channel d)).receive
      (.gfx (.resetGraphics (resetGraphicsPdu layout)) published.1) := clientOf_send _ _ _
  have grows : Grows (Drawable frame) d published.2 :=
    deleteGrows.trans (.of_call _ (send_calls _ _ _) trivial)
  have noSurfaces : published.2.surfaces = [] := rfl
  have nothingLive : (clientOf published.2).live = [] := by
    rw [client, Client.receive]
    split <;> exact emptied
  have built : Built published.2.nextSurfaceId published.2 := by
    refine ⟨?_, by rw [noSurfaces]; rfl⟩
    rw [nothingLive, noSurfaces]
    exact .nil
  simp only [publishLayout]
  split
  · exact ⟨built.agrees (by rw [noSurfaces]; decide), grows, by simp⟩
  · rename_i succeeded
    have resetOk : published.1 = channelRcOk := by simpa using succeeded
    have building : Building published.2.nextSurfaceId published.2 := by
      refine ⟨built, ?_, ?_, ?_⟩
      · rw [noSurfaces]
        exact (UInt16.add_zero _).symm
      · rw [client, resetOk]
        exact Nat.succ_pos _
      · rw [nothingLive]
        simp
    obtain ⟨loopBuilt, length, loopGrows, loopBuilding⟩ :=
      createSurfaces_built channel frame within building
    rw [noSurfaces, List.length_nil, Nat.zero_add] at length
    exact ⟨loopBuilt.agrees (length.trans few.le), grows.trans loopGrows,
      fun completed => (loopBuilding completed).mapped⟩

theorem performReset_agrees (channel : Channel) {frame : VideoFrame} {d : Private}
    (synced : Synced d) (frameSize : WithinWire frame.size) :
    let outcome := performReset channel frame d
    Agrees (clientOf outcome.2) outcome.2.surfaces ∧
      Grows (Drawable frame) d outcome.2 ∧
      (outcome.1 = true →
        ∀ surface ∈ (clientOf outcome.2).live, surface.Mapped (clientOf outcome.2)) := by
  simp only [performReset, performResetTo]
  split
  · rename_i passes
    obtain ⟨few, within⟩ := surfaceOutputs_within
      (resetLayout_within synced.layout frameSize) frameSize passes
    exact publishLayout_agrees channel _ frame synced.agrees few within
  · exact ⟨synced.agrees, .refl d, by simp⟩

theorem surfaceFor_live {d : Private} (agrees : Agrees (clientOf d) d.surfaces)
    {frame : VideoFrame} {surface : Surface} (found : surfaceFor d frame = some surface) :
    ∃ client ∈ (clientOf d).live, client.id = surface.id ∧ client.HasSize frame.size := by
  obtain ⟨listed, sameSize⟩ := Option.filter_eq_some_iff.mp found
  obtain ⟨inside, surfaceEq⟩ := List.getElem?_eq_some_iff.mp listed
  have liveInside : surfaceIndex frame < (clientOf d).live.length :=
    agrees.listed.length_eq ▸ inside
  obtain ⟨sameId, hasSize⟩ := agrees.listed.get liveInside inside
  rw [List.get_eq_getElem, List.get_eq_getElem, surfaceEq] at sameId hasSize
  exact ⟨_, List.getElem_mem liveInside, sameId, beq_iff_eq.mp sameSize ▸ hasSize⟩

theorem submitFrame_synced (channel : Channel) (frame : VideoFrame) {d : Private}
    (synced : Synced d) (complete : d.pendingReset = false) :
    Synced (submitFrame channel frame d) ∧
      Grows (Drawable frame) d (submitFrame channel frame d) := by
  simp only [submitFrame]
  split
  · exact ⟨synced, .refl d⟩
  · rename_i surface found
    obtain ⟨live, member, sameId, hasSize⟩ := surfaceFor_live synced.agrees found
    have calls := emitFrame_calls channel surface frame d
    have client : clientOf (emitFrame channel surface frame d) = clientOf d :=
      clientOf_append calls
    refine ⟨⟨?_, ?_, synced.layout⟩, _, calls, trivial, trivial, ?_, trivial, trivial, trivial⟩
    · rw [client]
      exact synced.agrees
    · rw [client]
      exact fun _ => synced.mapped complete
    · exact ⟨live, member, sameId, synced.mapped complete live member, hasSize⟩

theorem sendFrame_synced (channel : Channel) {frame : VideoFrame} {d : Private}
    (synced : Synced d) (frameSize : WithinWire frame.size) :
    Synced (sendFrame channel frame d) ∧ Grows (Drawable frame) d (sendFrame channel frame d) := by
  obtain ⟨agrees, resetGrows, mapped⟩ := performReset_agrees channel synced frameSize
  have untouched : Untouched d (performReset channel frame d).2 :=
    performResetTo_untouched channel d.monitorLayout frame d
  have layout : LayoutWithinWire (performReset channel frame d).2.monitorLayout :=
    untouched.monitorLayout ▸ synced.layout
  simp only [sendFrame]
  split
  · split
    · rename_i pending
      split
      · rename_i completed
        have cleared : Synced (clearPendingReset (performReset channel frame d).2) :=
          ⟨agrees, fun _ => mapped completed, layout⟩
        obtain ⟨submitted, submitGrows⟩ := submitFrame_synced channel frame cleared rfl
        exact ⟨submitted, resetGrows.trans submitGrows⟩
      · have stillPending : (performReset channel frame d).2.pendingReset = true :=
          untouched.pendingReset.trans pending
        refine ⟨⟨agrees, ?_, layout⟩, resetGrows⟩
        rw [stillPending]
        simp
    · rename_i complete
      exact submitFrame_synced channel frame synced (Bool.eq_false_iff.mpr complete)
  · exact ⟨synced, .refl d⟩

/-- Every operation keeps the invariant and makes only allowed calls. -/
theorem perform_synced (channel : Channel) {d : Private} {operation : Operation}
    (synced : Synced d) (within : operation.WithinWire) :
    Synced (perform channel d operation) ∧
      Grows operation.Allows d (perform channel d operation) := by
  cases operation with
  | sendFrame frame => exact sendFrame_synced channel synced within
  | setMonitorLayout monitors =>
      simp only [perform, setMonitorLayout]
      split
      · exact ⟨synced, .refl d⟩
      · refine ⟨⟨synced.agrees, ?_, within⟩, [], (List.append_nil _).symm, trivial⟩
        intro complete
        cases complete
  | reset =>
      refine ⟨⟨synced.agrees, ?_, synced.layout⟩, [], (List.append_nil _).symm, trivial⟩
      intro complete
      cases complete

/-! ### Whole runs -/

def opened (gfxContext capsConfirmed : Bool) : Private :=
  { gfxContext := gfxContext
    capsConfirmed := capsConfirmed }

theorem opened_synced (gfxContext capsConfirmed : Bool) :
    Synced (opened gfxContext capsConfirmed) := by
  refine ⟨⟨.nil, List.nodup_nil⟩, ?_, Nat.two_pow_pos 16, ?_⟩
  · intro complete
    cases complete
  · intro monitor member
    cases member

/-- Through any operations, and whichever calls fail, the surface list stays the
client's and every frame is drawn on a mapped surface of its size. -/
theorem surfaces_agree (channel : Channel) (gfxContext capsConfirmed : Bool)
    (operations : List Operation) (within : ∀ operation ∈ operations, operation.WithinWire) :
    StepRun.Along (perform channel) (Performs channel) (opened gfxContext capsConfirmed)
      operations := by
  have synced := opened_synced gfxContext capsConfirmed
  generalize opened gfxContext capsConfirmed = d at synced ⊢
  induction operations generalizing d with
  | nil => trivial
  | cons operation rest ih =>
      obtain ⟨here, later⟩ := List.forall_mem_cons.mp within
      obtain ⟨next, grows⟩ := perform_synced channel synced here
      exact ⟨⟨next.agrees, grows⟩, ih later _ next⟩

/-- The second creation fails, and so does the reset after it; the next frame
deletes what was left and succeeds. -/
theorem surfaces_agree_retried :
    let size : QSize := { width := 640, height := 480 }
    let frame : VideoFrame := { size := size, outputIndex := 0, data := [1] }
    let monitor (x : Int32) : DisplayMonitor :=
      { position := { x := x, y := 0 }, size := size, primary := x == 0 }
    let channel : Channel :=
      { status := fun made => if made = 3 || made = 5 then 1 else channelRcOk
        currentTime := fun _ => { hour := 0, minute := 0, second := 0, msec := 0 } }
    StepRun.Along (perform channel) (Performs channel) (opened true true)
      [.setMonitorLayout [monitor 0, monitor 640], .sendFrame frame, .sendFrame frame, .reset,
        .sendFrame frame] := by
  intro size frame monitor channel
  apply surfaces_agree
  have sizeWithin : WithinWire size := ⟨⟨by decide, by decide⟩, ⟨by decide, by decide⟩⟩
  have layoutWithin : LayoutWithinWire [monitor 0, monitor 640] := by
    refine ⟨by decide, ?_⟩
    simp only [List.forall_mem_cons]
    exact ⟨sizeWithin, sizeWithin, by simp⟩
  simp only [List.forall_mem_cons]
  exact ⟨layoutWithin, sizeWithin, sizeWithin, trivial, sizeWithin, by simp⟩

end VideoStream

end KRdp
