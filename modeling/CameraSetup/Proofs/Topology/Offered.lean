import CameraSetup.Selection
import CameraSetup.Proofs.Topology.Listing

/-! Selections that a topology offers, and how they are made: from one offered setup, by adding one
more, or by leaving one out. -/

namespace CameraSetup

/-- The selection sets up some port, the topology has its board, and the topology offers every
setup in it at the setup's port. -/
structure Selection.OfferedBy (s : Selection) (t : Topology) : Prop where
  nonempty : s.isEmpty = false
  board : s.board ∈ t.boards.keys
  setups : ∀ port setup, s.get? port = some setup → t.offers s.board port setup = true

namespace Selection

variable {s : Selection} {t : Topology} {board : BoardId} {port : String} {setup : PortSetup}

/-- A setup on offer joins any setups on offer. -/
theorem offeredBy_insert (setups : ∀ p u, s.get? p = some u → t.offers s.board p u = true)
    (offered : t.offers s.board port setup = true) : (s.insert port setup).OfferedBy t := by
  refine ⟨SortedMap.isEmpty_insert _ _ _, ?_, ?_⟩
  · exact Topology.mem_boards_of_mem_ports (Topology.mem_ports_of_offers offered)
  · intro p u h
    by_cases hp : p = port
    · subst hp
      rw [get?_insert_self] at h
      cases h
      exact offered
    · rw [get?_insert_of_ne s hp] at h
      exact setups p u h

theorem offeredBy_ofBoard_insert (offered : t.offers board port setup = true) :
    ((ofBoard board).insert port setup).OfferedBy t :=
  offeredBy_insert (s := ofBoard board) (fun _ _ h => nomatch h) offered

theorem OfferedBy.insert (h : s.OfferedBy t) (offered : t.offers s.board port setup = true) :
    (s.insert port setup).OfferedBy t :=
  offeredBy_insert h.setups offered

theorem OfferedBy.erase (h : s.OfferedBy t) (left : (s.erase port).isEmpty = false) :
    (s.erase port).OfferedBy t := by
  refine ⟨left, h.board, fun p u hu => h.setups p u ?_⟩
  rw [get?, Selection.erase, SortedMap.get?_erase] at hu
  split at hu
  · cases hu
  · exact hu

end Selection

end CameraSetup
