/-
Accepted layouts as lists of monitors.

What the validator guarantees about the records of a PDU is restated about the
monitors it returns, which is the form the rest of the server works with.
-/

import KRdp.DisplayControl.ValidLayout

namespace KRdp

open MachineInt

/-! ### Regions of the monitors of a layout -/

def DisplayMonitor.box (monitor : DisplayMonitor) : Box Int :=
  (⟨(monitor.position.x.toInt, monitor.position.x.toInt + monitor.size.width.toNatClampNeg),
      by simp⟩,
    ⟨(monitor.position.y.toInt, monitor.position.y.toInt + monitor.size.height.toNatClampNeg),
      by simp⟩)

/-- The facts about a layout that the validator accepted. -/
structure AcceptedLayout (layout : DisplayMonitorList) : Prop where
  nonempty : layout ≠ []
  sizes : ∀ monitor ∈ layout,
    (200 ≤ monitor.size.width.toInt ∧ monitor.size.width.toInt ≤ 8192) ∧
      (200 ≤ monitor.size.height.toInt ∧ monitor.size.height.toInt ≤ 8192)
  nearX : ∀ monitor ∈ layout, -32766 ≤ monitor.position.x.toInt ∧
    monitor.position.x.toInt + monitor.size.width.toInt ≤ 32766
  nearY : ∀ monitor ∈ layout, -32766 ≤ monitor.position.y.toInt ∧
    monitor.position.y.toInt + monitor.size.height.toInt ≤ 32766
  disjoint : layout.Pairwise fun first second => ¬Box.Overlap first.box second.box
  onePrimary : layout.countP DisplayMonitor.primary = 1
  extent : ∀ hull : Box Int, Box.bounding (layout.map DisplayMonitor.box) = hull →
    hull.width ≤ 32766 ∧ hull.height ≤ 32766

namespace DisplayControl

theorem box_decoded {wire : MonitorLayout} (supported : wire.SizeSupported) :
    wire.decoded.box = wire.box := by
  have size := (wire.decoded_faithful supported).size
  apply Box.eq_of_edges
  · rfl
  · have widthEq : wire.decoded.size.width.toNatClampNeg = wire.width.toNat := by
      rw [← Int32.toNat_toInt, size.1, Int.toNat_natCast]
    change wire.left.toInt + (wire.decoded.size.width.toNatClampNeg : Int) = _
    rw [widthEq, MonitorLayout.box_right]
  · rfl
  · have heightEq : wire.decoded.size.height.toNatClampNeg = wire.height.toNat := by
      rw [← Int32.toNat_toInt, size.2, Int.toNat_natCast]
    change wire.top.toInt + (wire.decoded.size.height.toNatClampNeg : Int) = _
    rw [heightEq, MonitorLayout.box_bottom]

/-- Only a PDU with records decodes. -/
theorem validLayout_of_decode {pdu : MonitorLayoutPdu} {destination layout : DisplayMonitorList}
    (accepted : decodeMonitorLayout pdu (some destination) = .ok layout) :
    ∃ records, pdu.monitors = some records ∧ ValidLayout pdu records ∧
      layout = records.map MonitorLayout.decoded := by
  cases array : pdu.monitors with
  | none =>
      simp only [decodeMonitorLayout, array] at accepted
      split at accepted
      · cases accepted
      · split at accepted <;> cases accepted
  | some records =>
      have valid := (decodeMonitorLayout_ok_iff pdu records array destination layout).mp accepted
      exact ⟨records, rfl, valid⟩

theorem acceptedLayout_of_decode {pdu : MonitorLayoutPdu} {destination layout : DisplayMonitorList}
    (accepted : decodeMonitorLayout pdu (some destination) = .ok layout) :
    AcceptedLayout layout := by
  obtain ⟨records, array, valid, rfl⟩ := validLayout_of_decode accepted
  have lengthEq := pdu.readable records array
  have nonempty : records ≠ [] := by
    intro empty
    have count := valid.count
    rw [empty, List.length_nil] at lengthEq
    omega
  have boxesEq : (records.map MonitorLayout.decoded).map DisplayMonitor.box =
      records.map MonitorLayout.box := by
    rw [List.map_map]
    exact List.map_congr_left fun wire member => box_decoded (valid.sizes wire member)
  obtain ⟨hull, hullEq, _⟩ := edgesOf_bounding nonempty
  have near := nearOrigin_of_extent hullEq valid.onePrimary valid.primaryAtOrigin
    (valid.extent hull hullEq)
  refine ⟨by simpa using nonempty, ?_, ?_, ?_, ?_, ?_, ?_⟩
  · intro monitor member
    obtain ⟨wire, wireMember, rfl⟩ := List.mem_map.mp member
    have supported := valid.sizes wire wireMember
    obtain ⟨widthEq, heightEq⟩ := (wire.decoded_faithful supported).size
    rw [widthEq, heightEq]
    have widthRange := supported.widthRange
    have heightRange := supported.heightRange
    omega
  · intro monitor member
    obtain ⟨wire, wireMember, rfl⟩ := List.mem_map.mp member
    rw [(wire.decoded_faithful (valid.sizes wire wireMember)).size.1]
    exact ⟨(near wire wireMember).left, (near wire wireMember).right⟩
  · intro monitor member
    obtain ⟨wire, wireMember, rfl⟩ := List.mem_map.mp member
    rw [(wire.decoded_faithful (valid.sizes wire wireMember)).size.2]
    exact ⟨(near wire wireMember).top, (near wire wireMember).bottom⟩
  · rw [List.pairwise_map]
    refine (List.Pairwise.iff_of_mem ?_).mp valid.disjoint
    intro first second firstMember secondMember
    rw [box_decoded (valid.sizes first firstMember),
      box_decoded (valid.sizes second secondMember)]
  · rw [List.countP_map]
    exact valid.onePrimary
  · rw [boxesEq]
    exact valid.extent

end DisplayControl

end KRdp
