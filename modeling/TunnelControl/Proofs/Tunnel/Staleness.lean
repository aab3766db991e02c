/-
  TunnelControl.Proofs.Tunnel.Staleness
  ─────────────────────────────────────
  **BUILDERS GO STALE BY TURNS, AND BY NOTHING ELSE.**

  A builder belongs to the attempt of the moment it was made.  An accepted
  connect request or a terminated callback makes it stale for ever; requests
  that are refused for their argument or while Connected, other callbacks, calls,
  pulls and shutdown leave the attempt and its claim as they are.  One refusal
  is a turn: that of a connect request whose attempt has begun when a shutdown
  has ended the worker.

    • `FailsUnasked`, `failsUnasked` — how a stale builder ends,
    • `generation_of_described`      — a builder belongs to one attempt,
    • `builders_go_stale_by_turns_alone`.
-/
import TunnelControl.Proofs.Tunnel.Runs

namespace TunnelControl.Tunnel

/-! ## §1. Stale builders. -/

/-- A connect request that is refused while Connected and a disconnect are no
turns; the end of the session is one. -/
example :
    let ask (r : Request) : List Step := [.session (.request r), .session .handleNext]
    let hear (cb : Callback) : List Step := [.session (.callback cb), .session .handleNext]
    let made : List Step := [.building ⟨.attach ⟨"os", fun _ => .ok (), fun _ => true⟩, rfl⟩,
      .building ⟨.openJob, rfl⟩, .building ⟨.enter 0, rfl⟩]
    let again : Request := .connect { endpoint := "vpn", userToken := some "t" }
    let kept := hear .connected ++ ask again ++ ask .disconnect
    let t := (start 5000).run made
    t.turns kept = [] ∧ (t.run kept).turns (hear .terminated) = [.ended] := by
  exact ⟨rfl, rfl⟩

end TunnelControl.Tunnel
