/-
What a reset and a frame do to the stream.

The calls that they make, the fields that they leave alone, and the surfaces
that a completed reset lists.
-/

import KRdp.VideoStream.Stream

namespace KRdp

namespace VideoStream

/-! ### The calls a reset makes -/

def asReset : Call → Option ResetGraphicsPdu
  | .gfx (.resetGraphics pdu) _ => some pdu
  | _ => none

def asCreate : Call → Option CreateSurfacePdu
  | .gfx (.createSurface pdu) _ => some pdu
  | _ => none

def asMap : Call → Option MapSurfaceToOutputPdu
  | .gfx (.mapSurfaceToOutput pdu) _ => some pdu
  | _ => none

def resetsOf (calls : List Call) : List ResetGraphicsPdu := calls.filterMap asReset
def createsOf (calls : List Call) : List CreateSurfacePdu := calls.filterMap asCreate
def mapsOf (calls : List Call) : List MapSurfaceToOutputPdu := calls.filterMap asMap

/-- The calls of the surface loop: the `i`-th created surface has the size of the
`i`-th output, and the `i`-th mapping its position under the same id. -/
structure SurfaceCalls (firstId : UInt16) (outputs : List (QSize × QPoint))
    (calls : List Call) : Prop where
  resets : resetsOf calls = []
  creates : ∀ index pdu, (createsOf calls)[index]? = some pdu →
    ∃ output, outputs[index]? = some output ∧
      pdu = createSurfacePdu (firstId + UInt16.ofNat index) output.1
  maps : ∀ index pdu, (mapsOf calls)[index]? = some pdu →
    ∃ output, outputs[index]? = some output ∧
      pdu = mapSurfaceToOutputPdu (firstId + UInt16.ofNat index) output.2

theorem SurfaceCalls.nil (firstId : UInt16) (outputs : List (QSize × QPoint)) :
    SurfaceCalls firstId outputs [] :=
  ⟨rfl, by intro index pdu found; simp [createsOf] at found,
    by intro index pdu found; simp [mapsOf] at found⟩

theorem SurfaceCalls.createOnly (firstId : UInt16) (surfaceSize : QSize)
    (outputPosition : QPoint) (rest : List (QSize × QPoint)) (status : UInt32) :
    SurfaceCalls firstId ((surfaceSize, outputPosition) :: rest)
      [.gfx (.createSurface (createSurfacePdu firstId surfaceSize)) status] := by
  refine ⟨rfl, ?_, ?_⟩
  · intro index pdu found
    cases index with
    | zero =>
        cases found
        exact ⟨_, rfl, by simp⟩
    | succ index => cases found
  · intro index pdu found
    cases found

private theorem id_succ (firstId : UInt16) (index : Nat) :
    firstId + 1 + UInt16.ofNat index = firstId + UInt16.ofNat (index + 1) := by
  rw [UInt16.ofNat_add, UInt16.add_assoc, UInt16.add_comm 1]
  rfl

theorem SurfaceCalls.cons {firstId : UInt16} {rest : List (QSize × QPoint)}
    {emitted : List Call} (calls : SurfaceCalls (firstId + 1) rest emitted)
    (surfaceSize : QSize) (outputPosition : QPoint) (createStatus mapStatus : UInt32) :
    SurfaceCalls firstId ((surfaceSize, outputPosition) :: rest)
      (.gfx (.createSurface (createSurfacePdu firstId surfaceSize)) createStatus ::
        .gfx (.mapSurfaceToOutput (mapSurfaceToOutputPdu firstId outputPosition)) mapStatus ::
          emitted) := by
  obtain ⟨resets, creates, maps⟩ := calls
  refine ⟨resets, ?_, ?_⟩
  · intro index pdu found
    cases index with
    | zero =>
        cases found
        exact ⟨_, rfl, by simp⟩
    | succ index =>
        obtain ⟨output, outputAt, pduEq⟩ := creates index pdu found
        exact ⟨output, outputAt, by rw [pduEq, id_succ]⟩
  · intro index pdu found
    cases index with
    | zero =>
        cases found
        exact ⟨_, rfl, by simp⟩
    | succ index =>
        obtain ⟨output, outputAt, pduEq⟩ := maps index pdu found
        exact ⟨output, outputAt, by rw [pduEq, id_succ]⟩

/-- The calls of the surface loop; if it succeeded, none is missing. -/
theorem createSurfaces_calls (channel : Channel) (outputs : List (QSize × QPoint))
    (d : Private) :
    ∃ emitted, (createSurfaces channel outputs d).2.calls = d.calls ++ emitted ∧
      SurfaceCalls d.nextSurfaceId outputs emitted ∧
      ((createSurfaces channel outputs d).1 = true →
        (createsOf emitted).length = outputs.length ∧
          (mapsOf emitted).length = outputs.length) := by
  induction outputs generalizing d with
  | nil => exact ⟨[], by simp [createSurfaces], SurfaceCalls.nil _ _, fun _ => ⟨rfl, rfl⟩⟩
  | cons output rest ih =>
      obtain ⟨surfaceSize, outputPosition⟩ := output
      simp only [createSurfaces]
      split
      · exact ⟨_, rfl, SurfaceCalls.createOnly d.nextSurfaceId surfaceSize outputPosition rest _,
          by simp⟩
      · split
        · exact ⟨_, by simp; exact ⟨rfl, rfl⟩,
            (SurfaceCalls.nil _ rest).cons surfaceSize outputPosition _ _, by simp⟩
        · obtain ⟨emitted, callsEq, surfaceCalls, complete⟩ := ih (send channel
            (.mapSurfaceToOutput (mapSurfaceToOutputPdu d.nextSurfaceId outputPosition))
            (listSurface { id := d.nextSurfaceId, size := surfaceSize } (send channel
              (.createSurface (createSurfacePdu d.nextSurfaceId surfaceSize))
              (takeSurfaceId d)).2)).2
          have nextCalls : SurfaceCalls (d.nextSurfaceId + 1) rest emitted := surfaceCalls
          refine ⟨_, by rw [callsEq]; simp; exact ⟨rfl, rfl⟩,
            nextCalls.cons surfaceSize outputPosition _ _, ?_⟩
          intro succeeded
          obtain ⟨created, mapped⟩ := complete succeeded
          exact ⟨congrArg (· + 1) created, congrArg (· + 1) mapped⟩

/-- The channel answered the call with success; nothing depends on the answers to
deletions. -/
def Call.accepted : Call → Bool
  | .gfx (.deleteSurface _) _ => true
  | .gfx _ status => status == channelRcOk
  | .startBandwidthMeasure => true
  | .stopBandwidthMeasure => true

/-- The surface loop succeeds if and only if none of its calls fails. -/
theorem createSurfaces_succeeds_iff (channel : Channel) (outputs : List (QSize × QPoint))
    {d : Private} {emitted : List Call}
    (callsEq : (createSurfaces channel outputs d).2.calls = d.calls ++ emitted) :
    (createSurfaces channel outputs d).1 = true ↔ ∀ call ∈ emitted, call.accepted = true := by
  induction outputs generalizing d emitted with
  | nil =>
      have none : emitted = [] := List.self_eq_append_right.mp callsEq
      exact iff_of_true rfl (by simp [none])
  | cons output rest ih =>
      obtain ⟨surfaceSize, outputPosition⟩ := output
      simp only [createSurfaces] at callsEq ⊢
      split at callsEq
      · rename_i failed
        rw [if_pos failed, ← List.append_cancel_left callsEq, List.forall_mem_singleton]
        exact iff_of_false Bool.false_ne_true fun accepted =>
          bne_iff_ne.mp failed (beq_iff_eq.mp accepted)
      · rename_i created
        rw [if_neg created]
        have createdOk := bne_eq_false_iff_eq.mp (Bool.eq_false_of_not_eq_true created)
        split at callsEq
        · rename_i failed
          rw [if_pos failed]
          rw [send_calls, listSurface_calls, send_calls, takeSurfaceId_calls,
            List.append_assoc] at callsEq
          rw [← List.append_cancel_left callsEq]
          simp only [List.forall_mem_append, List.forall_mem_singleton]
          exact iff_of_false Bool.false_ne_true fun accepted =>
            bne_iff_ne.mp failed (beq_iff_eq.mp accepted.2)
        · rename_i mapped
          rw [if_neg mapped]
          have mappedOk := bne_eq_false_iff_eq.mp (Bool.eq_false_of_not_eq_true mapped)
          obtain ⟨later, laterEq, _⟩ := createSurfaces_calls channel rest (send channel
            (.mapSurfaceToOutput (mapSurfaceToOutputPdu d.nextSurfaceId outputPosition))
            (listSurface { id := d.nextSurfaceId, size := surfaceSize } (send channel
              (.createSurface (createSurfacePdu d.nextSurfaceId surfaceSize))
              (takeSurfaceId d)).2)).2
          rw [ih laterEq]
          rw [laterEq, send_calls, listSurface_calls, send_calls, takeSurfaceId_calls,
            List.append_assoc, List.append_assoc] at callsEq
          rw [← List.append_cancel_left callsEq]
          simp only [List.forall_mem_append, List.forall_mem_singleton]
          exact ⟨fun rest => ⟨beq_iff_eq.mpr createdOk, beq_iff_eq.mpr mappedOk, rest⟩,
            fun all => all.2.2⟩

theorem deleteSurfaces_calls (channel : Channel) (d : Private) :
    ∃ emitted, (deleteSurfaces channel d).calls = d.calls ++ emitted ∧
      ∀ call ∈ emitted, ∃ surfaceId status, call = .gfx (.deleteSurface surfaceId) status := by
  have folded (surfaces : List Surface) (d : Private) :
      ∃ emitted,
        (surfaces.foldl (fun d surface =>
          (send channel (.deleteSurface surface.id) d).2) d).calls = d.calls ++ emitted ∧
        ∀ call ∈ emitted, ∃ surfaceId status,
          call = .gfx (.deleteSurface surfaceId) status := by
    induction surfaces generalizing d with
    | nil => exact ⟨[], by simp, by simp⟩
    | cons surface rest ih =>
        obtain ⟨emitted, callsEq, deletes⟩ := ih (send channel (.deleteSurface surface.id) d).2
        refine ⟨_ :: emitted, by rw [List.foldl_cons, callsEq, send_calls]; simp; rfl, ?_⟩
        intro call member
        rcases List.mem_cons.mp member with rfl | later
        · exact ⟨_, _, rfl⟩
        · exact deletes call later
  exact folded d.surfaces d

/-- All calls of a reset that passed its size checks: deletions, one
`ResetGraphics`, and those of the surface loop if it was reached. -/
theorem publishLayout_calls (channel : Channel) (layout : DisplayMonitorList)
    (frame : VideoFrame) (d : Private) :
    ∃ emitted, (publishLayout channel layout frame d).2.calls = d.calls ++ emitted ∧
      resetsOf emitted = [resetGraphicsPdu layout] ∧
      (∃ firstId loop, SurfaceCalls firstId (surfaceOutputs layout frame) loop ∧
        createsOf emitted = createsOf loop ∧ mapsOf emitted = mapsOf loop) ∧
      ((publishLayout channel layout frame d).1 = true →
        (createsOf emitted).length = (surfaceOutputs layout frame).length ∧
          (mapsOf emitted).length = (surfaceOutputs layout frame).length) := by
  obtain ⟨deletions, deletedCalls, deletes⟩ := deleteSurfaces_calls channel d
  have noResets : resetsOf deletions = [] := by
    rw [resetsOf, List.filterMap_eq_nil_iff]
    intro call member
    obtain ⟨_, _, rfl⟩ := deletes call member
    rfl
  have noCreates : createsOf deletions = [] := by
    rw [createsOf, List.filterMap_eq_nil_iff]
    intro call member
    obtain ⟨_, _, rfl⟩ := deletes call member
    rfl
  have noMaps : mapsOf deletions = [] := by
    rw [mapsOf, List.filterMap_eq_nil_iff]
    intro call member
    obtain ⟨_, _, rfl⟩ := deletes call member
    rfl
  -- `loop` is what follows `ResetGraphics`, nothing when that call failed.
  have assemble (loop : List Call) (status : UInt32) (firstId : UInt16)
      (calls : SurfaceCalls firstId (surfaceOutputs layout frame) loop) :
      let emitted := deletions ++ .gfx (.resetGraphics (resetGraphicsPdu layout)) status :: loop
      resetsOf emitted = [resetGraphicsPdu layout] ∧
        createsOf emitted = createsOf loop ∧ mapsOf emitted = mapsOf loop := by
    simp only [resetsOf, createsOf, mapsOf] at noResets noCreates noMaps ⊢
    simp only [List.filterMap_append, noResets, noCreates, noMaps, List.nil_append]
    refine ⟨?_, rfl, rfl⟩
    exact congrArg (resetGraphicsPdu layout :: ·) calls.resets
  simp only [publishLayout]
  split
  · obtain ⟨resets, creates, maps⟩ := assemble [] _ 0 (SurfaceCalls.nil _ _)
    exact ⟨_, by rw [send_calls, deletedCalls, List.append_assoc],
      resets, ⟨0, [], SurfaceCalls.nil _ _, creates, maps⟩, by simp⟩
  · obtain ⟨loop, loopCalls, surfaceCalls, complete⟩ := createSurfaces_calls channel
      (surfaceOutputs layout frame)
      (send channel (.resetGraphics (resetGraphicsPdu layout)) (deleteSurfaces channel d)).2
    obtain ⟨resets, creates, maps⟩ := assemble loop _ _ surfaceCalls
    refine ⟨_, by rw [loopCalls, send_calls, deletedCalls]; simp only [List.append_assoc]; rfl,
      resets, ⟨_, loop, surfaceCalls, creates, maps⟩, ?_⟩
    intro succeeded
    rw [creates, maps]
    exact complete succeeded

/-- A reset that passed its size checks succeeds if and only if the channel accepts
its calls. -/
theorem publishLayout_succeeds_iff (channel : Channel) (layout : DisplayMonitorList)
    (frame : VideoFrame) {d : Private} {emitted : List Call}
    (callsEq : (publishLayout channel layout frame d).2.calls = d.calls ++ emitted) :
    (publishLayout channel layout frame d).1 = true ↔ ∀ call ∈ emitted, call.accepted = true := by
  obtain ⟨deletions, deletedCalls, deletes⟩ := deleteSurfaces_calls channel d
  have deleted : ∀ call ∈ deletions, call.accepted = true := by
    intro call member
    obtain ⟨_, _, rfl⟩ := deletes call member
    rfl
  simp only [publishLayout] at callsEq ⊢
  split at callsEq
  · rename_i failed
    rw [if_pos failed]
    rw [send_calls, deletedCalls, List.append_assoc] at callsEq
    rw [← List.append_cancel_left callsEq]
    simp only [List.forall_mem_append, List.forall_mem_singleton]
    exact iff_of_false Bool.false_ne_true fun accepted =>
      bne_iff_ne.mp failed (beq_iff_eq.mp accepted.2)
  · rename_i published
    rw [if_neg published]
    have publishedOk := bne_eq_false_iff_eq.mp (Bool.eq_false_of_not_eq_true published)
    obtain ⟨loop, loopCalls, _⟩ := createSurfaces_calls channel (surfaceOutputs layout frame)
      (send channel (.resetGraphics (resetGraphicsPdu layout)) (deleteSurfaces channel d)).2
    rw [createSurfaces_succeeds_iff channel _ loopCalls]
    rw [loopCalls, send_calls, deletedCalls, List.append_assoc, List.append_assoc] at callsEq
    rw [← List.append_cancel_left callsEq]
    simp only [List.forall_mem_append, List.forall_mem_singleton]
    exact ⟨fun rest => ⟨deleted, beq_iff_eq.mpr publishedOk, rest⟩, fun all => all.2.2⟩

/-! ### The fields that sending leaves alone -/

/-- The fields that other components write, and that a reset and a frame only
read. -/
structure Untouched (before after : Private) : Prop where
  gfxContext : after.gfxContext = before.gfxContext
  enabled : after.enabled = before.enabled
  capsConfirmed : after.capsConfirmed = before.capsConfirmed
  pendingReset : after.pendingReset = before.pendingReset
  frameQueue : after.frameQueue = before.frameQueue
  monitorLayout : after.monitorLayout = before.monitorLayout

theorem Untouched.refl (d : Private) : Untouched d d := ⟨rfl, rfl, rfl, rfl, rfl, rfl⟩

theorem Untouched.trans {first second third : Private} (before : Untouched first second)
    (after : Untouched second third) : Untouched first third :=
  ⟨after.gfxContext.trans before.gfxContext, after.enabled.trans before.enabled,
    after.capsConfirmed.trans before.capsConfirmed,
    after.pendingReset.trans before.pendingReset, after.frameQueue.trans before.frameQueue,
    after.monitorLayout.trans before.monitorLayout⟩

theorem deleteSurfaces_untouched (channel : Channel) (d : Private) :
    Untouched d (deleteSurfaces channel d) := by
  have folded (surfaces : List Surface) (d : Private) :
      Untouched d (surfaces.foldl
        (fun d surface => (send channel (.deleteSurface surface.id) d).2) d) := by
    induction surfaces generalizing d with
    | nil => exact .refl d
    | cons surface rest ih =>
        have sent : Untouched d (send channel (.deleteSurface surface.id) d).2 :=
          ⟨rfl, rfl, rfl, rfl, rfl, rfl⟩
        exact sent.trans (ih _)
  obtain ⟨gfxContext, enabled, capsConfirmed, pendingReset, frameQueue, monitorLayout⟩ :=
    folded d.surfaces d
  exact ⟨gfxContext, enabled, capsConfirmed, pendingReset, frameQueue, monitorLayout⟩

theorem createSurfaces_untouched (channel : Channel) (outputs : List (QSize × QPoint))
    (d : Private) : Untouched d (createSurfaces channel outputs d).2 := by
  induction outputs generalizing d with
  | nil => exact .refl d
  | cons output rest ih =>
      obtain ⟨surfaceSize, outputPosition⟩ := output
      simp only [createSurfaces]
      split
      · exact ⟨rfl, rfl, rfl, rfl, rfl, rfl⟩
      · split
        · exact ⟨rfl, rfl, rfl, rfl, rfl, rfl⟩
        · refine Untouched.trans ?_ (ih _)
          exact ⟨rfl, rfl, rfl, rfl, rfl, rfl⟩

theorem performResetTo_untouched (channel : Channel) (copied : DisplayMonitorList)
    (frame : VideoFrame) (d : Private) :
    Untouched d (performResetTo channel copied frame d).2 := by
  simp only [performResetTo, publishLayout]
  split
  · have published : Untouched d (send channel
        (.resetGraphics (resetGraphicsPdu (resetLayout copied frame)))
        (deleteSurfaces channel d)).2 :=
      (deleteSurfaces_untouched channel d).trans ⟨rfl, rfl, rfl, rfl, rfl, rfl⟩
    split
    · exact published
    · exact published.trans (createSurfaces_untouched channel _ _)
  · exact .refl d

theorem submitFrame_untouched (channel : Channel) (frame : VideoFrame) (d : Private) :
    Untouched d (submitFrame channel frame d) := by
  simp only [submitFrame]
  split
  · exact .refl d
  · exact ⟨rfl, rfl, rfl, rfl, rfl, rfl⟩

/-! ### Completed resets and frames -/

def Call.isSurfaceSetup : Call → Bool
  | .gfx (.deleteSurface _) _ => true
  | .gfx (.createSurface _) _ => true
  | .gfx (.mapSurfaceToOutput _) _ => true
  | _ => false

theorem createSurfaces_setup (channel : Channel) (outputs : List (QSize × QPoint))
    (d : Private) :
    (∃ emitted, (createSurfaces channel outputs d).2.calls = d.calls ++ emitted ∧
        ∀ call ∈ emitted, call.isSurfaceSetup = true) ∧
      ((createSurfaces channel outputs d).1 = true →
        (createSurfaces channel outputs d).2.surfaces.map Surface.size =
          d.surfaces.map Surface.size ++ outputs.map Prod.fst) := by
  induction outputs generalizing d with
  | nil => exact ⟨⟨[], by simp [createSurfaces], by simp⟩, fun _ => by simp [createSurfaces]⟩
  | cons output rest ih =>
      obtain ⟨surfaceSize, outputPosition⟩ := output
      simp only [createSurfaces]
      split
      · refine ⟨⟨_, rfl, ?_⟩, by simp⟩
        simp [Call.isSurfaceSetup]
      · split
        · refine ⟨⟨_, by simp; rfl, ?_⟩, by simp⟩
          simp [Call.isSurfaceSetup]
        · obtain ⟨⟨emitted, callsEq, setup⟩, listed⟩ := ih (send channel
            (.mapSurfaceToOutput (mapSurfaceToOutputPdu d.nextSurfaceId outputPosition))
            (listSurface { id := d.nextSurfaceId, size := surfaceSize } (send channel
              (.createSurface (createSurfacePdu d.nextSurfaceId surfaceSize))
              (takeSurfaceId d)).2)).2
          refine ⟨⟨_, by rw [callsEq]; simp; rfl, ?_⟩, ?_⟩
          · simpa [Call.isSurfaceSetup] using setup
          · intro succeeded
            rw [listed succeeded]
            simp

theorem publishLayout_setup (channel : Channel) (layout : DisplayMonitorList)
    (frame : VideoFrame) (d : Private) :
    ∃ before status after, (publishLayout channel layout frame d).2.calls =
        d.calls ++ (before ++ .gfx (.resetGraphics (resetGraphicsPdu layout)) status :: after) ∧
      (∀ call ∈ before ++ after, call.isSurfaceSetup = true) ∧
      ((publishLayout channel layout frame d).1 = true → status = channelRcOk) := by
  obtain ⟨deletions, deletedCalls, deletes⟩ := deleteSurfaces_calls channel d
  have setup (call : Call) (member : call ∈ deletions) : call.isSurfaceSetup = true := by
    obtain ⟨_, _, rfl⟩ := deletes call member
    rfl
  simp only [publishLayout]
  split
  · exact ⟨deletions, _, [], by rw [send_calls, deletedCalls, List.append_assoc],
      by rwa [List.append_nil], by simp⟩
  · rename_i succeeded
    obtain ⟨⟨loop, loopCalls, loopSetup⟩, _⟩ := createSurfaces_setup channel
      (surfaceOutputs layout frame)
      (send channel (.resetGraphics (resetGraphicsPdu layout)) (deleteSurfaces channel d)).2
    refine ⟨deletions, _, loop, ?_, ?_, fun _ => by simpa using succeeded⟩
    · rw [loopCalls, send_calls, deletedCalls]
      simp only [List.append_assoc]
      rfl
    · intro call member
      exact (List.mem_append.mp member).elim (setup call) (loopSetup call)

theorem surfaceOutputs_size {layout : DisplayMonitorList} {frame : VideoFrame}
    (passes : matchesLayout layout frame = true) :
    ((surfaceOutputs layout frame)[surfaceIndex frame]?).map Prod.fst = some frame.size := by
  simp only [matchesLayout, surfaceOutputs, surfaceIndex, perOutput, decide_eq_true_eq] at *
  split at passes
  · rename_i each
    rw [if_pos each, if_pos each, List.getElem?_map]
    split at passes
    · rename_i monitor found
      rw [found]
      exact congrArg some (beq_iff_eq.mp passes)
    · cases passes
  · rename_i whole
    rw [if_neg whole, if_neg whole]
    exact congrArg some (beq_iff_eq.mp passes)

/-- A completed reset lists a surface for its own frame. -/
theorem performResetTo_surfaceFor {channel : Channel} {copied : DisplayMonitorList}
    {frame : VideoFrame} {d : Private}
    (completed : (performResetTo channel copied frame d).1 = true) :
    (surfaceFor (performResetTo channel copied frame d).2 frame).isSome = true := by
  simp only [performResetTo] at completed ⊢
  split at completed
  · rename_i passes
    rw [if_pos passes]
    simp only [publishLayout] at completed ⊢
    split at completed
    · cases completed
    · rename_i succeeded
      rw [if_neg succeeded]
      have listed := (createSurfaces_setup channel _ _).2 completed
      have sizeAt := congrArg (·[surfaceIndex frame]?) listed
      have surfacesNil : (deleteSurfaces channel d).surfaces = [] := rfl
      simp only [send_surfaces, surfacesNil, List.map_nil, List.nil_append, List.getElem?_map,
        surfaceOutputs_size passes] at sizeAt
      obtain ⟨surface, found, sameSize⟩ := Option.map_eq_some_iff.mp sizeAt
      rw [surfaceFor, found, Option.filter_some, beq_iff_eq.mpr sameSize]
      rfl
  · cases completed

theorem emitFrame_calls (channel : Channel) (surface : Surface) (frame : VideoFrame)
    (d : Private) :
    (emitFrame channel surface frame d).calls = d.calls ++
      [.startBandwidthMeasure,
        .gfx (.startFrame (timestamp (channel.currentTime (d.calls.length + 1))) d.frameId)
          (channel.status (d.calls.length + 1)),
        .gfx (.surfaceCommand (surfaceCommandFor surface frame))
          (channel.status (d.calls.length + 2)),
        .gfx (.endFrame d.frameId) (channel.status (d.calls.length + 3)),
        .stopBandwidthMeasure] := by
  simp [emitFrame, note, send]

end VideoStream

end KRdp
