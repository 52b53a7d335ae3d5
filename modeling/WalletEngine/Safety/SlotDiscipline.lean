import WalletEngine.Safety.CommitBoundary
import WalletEngine.Safety.LateResults

/-! # The operation slots of a client -/

namespace WalletEngine

/-- The slots of a client agree with each other and with what it shows, its generations are
counted upwards, and no operation regains a slot it has lost. -/
theorem slots_disciplined {P : Platform} {host : HostModel P} {world : host.World}
    {config : (walletSystem host).Config} {client : Nat} {state : State}
    (reached : System.Reachable Unrestricted (System.initial world) config)
    (alive : config.clients client = some state) :
    state.tracked.Sound ∧ ∀ region ∈ System.regionsOf client config.history,
      State.Succeeds region.after state := by
  have sound := clientSound_of_run (walletSystem_disciplined reached) rfl (fun _ => rfl) client
  have succeeds := succeeds_of_run (custody_disciplined reached) rfl (fun _ => rfl) client
  exact ⟨(sound.alive alive).sound, succeeds.alive alive⟩

theorem slots_disciplined_late_cancel : ∃ config state,
    plainStart.run System.unchecked lateCancelSchedule = some config ∧
      config.clients 0 = some state ∧ state.tracked.Sound := by
  have ran : ((plainStart.run System.unchecked lateCancelSchedule).bind
      (·.clients 0)).isSome := by decide +kernel
  obtain ⟨state, ran⟩ := Option.isSome_iff_exists.mp ran
  obtain ⟨config, ran, alive⟩ := Option.bind_eq_some_iff.mp ran
  exact ⟨config, state, ran, alive, (slots_disciplined (.of_unchecked ran) alive).1⟩

end WalletEngine
