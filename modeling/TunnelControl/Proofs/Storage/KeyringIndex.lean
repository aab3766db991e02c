/-
  TunnelControl.Proofs.Storage.KeyringIndex
  ─────────────────────────────────────────
  **WHICH SECRETS THE LIST OF KEYS CAN MISS.**

  A keyring cannot say which secrets it holds, so what is not listed is not
  found when the store is cleared.  An action may be refused at any point of
  an operation.  Removals strike a key only after its secret is gone; a put
  stores the secret before it lists the key, and leaves it unlisted if it is
  refused in between.  That is the only way for a secret to be missed.

    • `Tracked`, `tracked_call`        — one call, whatever is refused,
    • `LastPutRefused`, `tracked_run`  — a history of calls,
    • `unlisted_secrets_were_refused`  — what the list misses, and a cleared
                                         store leaves behind,
    • `refused_put_outlives_clear`     — one such secret.
-/
import TunnelControl.Proofs.Storage.Keyring

namespace TunnelControl.Keyring

open SecretStore

variable {service : String}

/-! ## §1. One call. -/

/-- Every key with a secret is listed, strays apart. -/
def Tracked (service : String) (strays : String → Prop) (k : Keyring) : Prop :=
  ∃ names m, Laid service names m k ∧ ∀ key, (m key).isSome = true → key ∈ names ∨ strays key

theorem Tracked.mono {strays strays' : String → Prop} {k : Keyring} (h : Tracked service strays k)
    (more : ∀ key, strays key → strays' key) : Tracked service strays' k := by
  obtain ⟨names, m, laid, known⟩ := h
  exact ⟨names, m, laid, fun key some => (known key some).imp_right (more key)⟩

/-- What is struck from the list has no secret, so removals miss nothing. -/
theorem tracked_of_pruned {strays : String → Prop} {names : List String} {m : Texts} {k : Keyring}
    (h : LaidPruned service names m k)
    (known : ∀ key, (m key).isSome = true → key ∈ names ∨ strays key) :
    Tracked service strays k := by
  obtain ⟨names', m', laid, pruned⟩ := h
  refine ⟨names', m', laid, fun key some => ?_⟩
  rcases pruned.texts key with same | gone
  · rw [same] at some
    refine (known key some).imp_left fun hk => ?_
    rcases pruned.struck key hk with kept | gone
    · exact kept
    · rw [← same, gone] at some
      cases some
  · rw [gone] at some
    cases some

/-- **A call that puts nothing only removes.** -/
theorem call_prunes {names : List String} {m : Texts} {c : StoreCall}
    (about : c.About (· ≠ indexKey)) (other : ∀ key value, c ≠ .put key value) :
    Leads (Laid service names m) ((keyring service).call c) (fun _ => LaidPruned service names m)
      (LaidPruned service names m) := by
  cases c with
  | get key =>
      exact .map _ _ ((read_leads (Layout · names m) key).mono (fun _ _ h => Laid.pruned h.2)
        fun _ h => Laid.pruned h)
  | put key value => exact absurd rfl (other key value)
  | remove key =>
      exact .map _ _ ((forget_leads about).mono
        (fun _ _ h => ⟨_, _, h, pruned_filter names m key⟩) fun _ h => h)
  | keys =>
      exact .map _ _ (readIndex_leads.mono (fun _ _ h => h.2.pruned) fun _ h => h.pruned)
  | clear =>
      exact .map _ _ (forgetAll_leads.mono
        (fun _ _ h => ⟨_, _, h.1, pruned_without names m []⟩) fun _ h => h)
  | reopen =>
      intro k h
      exact .done rfl h.pruned

/-- **A put that is answered lists its key.** -/
theorem call_put_tracked {strays : String → Prop} {key : String} (usable : key ≠ indexKey)
    (value : String) {k : Keyring} (h : Tracked service strays k) :
    Tracked service
      (fun other => key ≠ other ∧ strays other ∨ key = other
        ∧ ∃ e, (((keyring service).call (.put key value)).on k).1 = .error e)
      (((keyring service).call (.put key value)).on k).2 := by
  obtain ⟨names, m, laid, known⟩ := h
  -- the secret of another key is not touched
  have others (other : String) (some : ((m.assign key (some value)) other).isSome = true)
      (ne : key ≠ other) : other ∈ names ∨ strays other := by
    rw [Texts.assign_of_ne ne] at some
    exact known other some
  have outcome : Outcome _ _ k (((keyring service).call (.put key value)).on k) :=
    (store_leads usable value).map
      (fun _ => Laid service (listedWith names key) (m.assign key (some value)))
      (fun _ => StoreReply.done) k laid
  generalize ((keyring service).call (.put key value)).on k = reached at outcome ⊢
  cases outcome with
  | done plan laid' =>
      refine ⟨_, _, laid', fun other some => ?_⟩
      by_cases same : key = other
      · exact .inl (mem_listedWith.mpr (.inr same.symm))
      · rcases others other some same with listed | stray
        · exact .inl (mem_listedWith.mpr (.inl listed))
        · exact .inr (.inl ⟨same, stray⟩)
  | @failed e _ plan refusing stopped =>
      -- refused before the secret was written, or after: the other keys are as they were
      obtain ⟨m', laid', others'⟩ : ∃ m', Laid service names m' _ ∧ ∀ other, key ≠ other →
          (m' other).isSome = true → other ∈ names ∨ strays other := by
        rcases stopped with laid' | laid'
        · exact ⟨m, laid', fun other _ some => known other some⟩
        · exact ⟨_, laid', fun other ne some => others other some ne⟩
      refine ⟨names, m', laid', fun other some => ?_⟩
      by_cases same : key = other
      · exact .inr (.inr ⟨same, e, rfl⟩)
      · exact (others' other same some).imp_right fun stray => .inl ⟨same, stray⟩

/-! ## §2. Histories. -/

/-- The last put of a key was answered with a failure. -/
def LastPutRefused (service : String) (k : Keyring) (calls : List StoreCall) (key : String) :
    Prop :=
  ∃ before value after, calls = before ++ .put key value :: after
    ∧ (∃ e, (((keyring service).call (.put key value)).on ((keyring service).run before k)).1
      = .error e)
    ∧ ∀ value', .put key value' ∉ after

theorem LastPutRefused.concat {k : Keyring} {calls : List StoreCall} {key : String}
    (h : LastPutRefused service k calls key) {c : StoreCall} (other : ∀ value, c ≠ .put key value) :
    LastPutRefused service k (calls ++ [c]) key := by
  obtain ⟨before, value, after, rfl, refused, last⟩ := h
  refine ⟨before, value, after ++ [c], by rw [List.append_assoc, List.cons_append], refused, ?_⟩
  intro value' later
  rcases List.mem_append.mp later with later | later
  · exact last value' later
  · exact other value' (List.mem_singleton.mp later).symm

/-- **After every history the strays are keys whose last put was refused.** -/
theorem tracked_run {k : Keyring} (empty : k.ofService service = []) {calls : List StoreCall}
    (about : ∀ c ∈ calls, c.About (· ≠ indexKey)) :
    Tracked service (LastPutRefused service k calls) ((keyring service).run calls k) := by
  induction calls using List.reverseRecOn with
  | nil => exact ⟨[], .none, laid_of_empty empty, fun _ some => by cases some⟩
  | append_singleton calls c ih =>
      have before := ih fun d hd => about d (List.mem_append_left _ hd)
      have usable := about c (List.mem_append_right _ (List.mem_singleton.mpr rfl))
      rw [run_concat]
      -- the last call is a put, which can make its own key a stray, or it only removes
      by_cases put : ∃ key value, c = .put key value
      · obtain ⟨key, value, rfl⟩ := put
        refine (call_put_tracked usable value before).mono ?_
        rintro other (⟨ne, stray⟩ | ⟨rfl, refused⟩)
        · refine stray.concat fun value' same => ?_
          injection same with same
          exact ne same
        · exact ⟨calls, value, [], rfl, refused, fun _ => List.not_mem_nil⟩
      · have noPut (key value : String) : c ≠ .put key value := fun same => put ⟨key, value, same⟩
        obtain ⟨names, m, laid, known⟩ := before
        have pruned := (call_prunes usable noPut).left laid
        exact (tracked_of_pruned pruned known).mono fun key stray => stray.concat (noPut key)

/-- **A secret is listed unless the last put of its key was refused**, after every
history and whatever the keyring refused on the way.  So these secrets alone
are left by a clearing that was answered. -/
theorem unlisted_secrets_were_refused {k : Keyring} (empty : k.ofService service = [])
    {calls : List StoreCall} (about : ∀ c ∈ calls, c.About (· ≠ indexKey)) :
    (∃ names, index (((keyring service).run calls k).ofService service) = .ok names
        ∧ ∀ key, key ≠ indexKey →
          ((((keyring service).run calls k).ofService service).get? key).isSome = true →
          key ∈ names ∨ LastPutRefused service k calls key)
      ∧ ((((keyring service).call .clear).on ((keyring service).run calls k)).1 = .ok .done →
          ∀ key, ((((keyring service).run (calls ++ [.clear]) k).ofService service).get? key).isSome
            = true → LastPutRefused service k calls key) := by
  obtain ⟨names, m, laid, known⟩ := tracked_run empty about
  constructor
  · refine ⟨names, laid.listed, fun key usable some => ?_⟩
    rw [laid.texts key usable] at some
    exact known key some
  · intro answered key some
    rw [run_concat] at some
    have outcome := forgetAll_leads.map (fun _ k => Laid service [] (m.without names) k
      ∧ (k.ofService service).get? indexKey = none) (fun _ => StoreReply.done) _ laid
    change Outcome _ _ _ (((keyring service).call .clear).on _) at outcome
    generalize ((keyring service).call .clear).on _ = reached at outcome answered some
    cases outcome with
    | failed => cases answered
    | done plan h =>
        -- the list itself is gone, so what is left is a secret of the store
        have usable : key ≠ indexKey := by
          rintro rfl
          rw [h.2] at some
          cases some
        rw [h.1.texts key usable] at some
        by_cases hk : key ∈ names
        · rw [Texts.without, if_pos hk] at some
          cases some
        · rw [Texts.without, if_neg hk] at some
          exact (known key some).resolve_left hk

/-- A keyring that refuses its fourth action, with which a put reads the list. -/
def refusingFourth : Keyring := { refuses := fun n _ => n == 3 }

theorem stray_secret_was_refused :
    (refusingFourth.ofService "olm" = [] ∧ StoreCall.About (· ≠ indexKey) (.put "secret" "s3cret"))
      ∧ LastPutRefused "olm" refusingFourth [.put "secret" "s3cret"] "secret" := by
  have usable : StoreCall.About (· ≠ indexKey) (.put "secret" "s3cret") := by
    show "secret" ≠ "__keys"
    decide
  have empty : refusingFourth.ofService "olm" = [] := rfl
  have about : ∀ c ∈ [StoreCall.put "secret" "s3cret"], c.About (· ≠ indexKey) := by
    intro c hc
    rw [List.mem_singleton.mp hc]
    exact usable
  refine ⟨⟨empty, usable⟩, ?_⟩
  obtain ⟨⟨names, listed, known⟩, -⟩ := unlisted_secrets_were_refused empty about
  -- the secret is there, and the list is empty
  have nothing : names = [] := by
    injection listed with listed
    exact listed.symm
  subst nothing
  exact (known "secret" usable rfl).resolve_left List.not_mem_nil

/-- **A secret whose put was refused can outlive a clearing that succeeds.** -/
theorem refused_put_outlives_clear :
    let put := StoreCall.put "secret" "s3cret"
    let k := (keyring "olm").run [put] refusingFourth
    (∃ e, (((keyring "olm").call put).on refusingFourth).1 = .error e)
      ∧ (k.ofService "olm").get? "secret" = some "s3cret" ∧ index (k.ofService "olm") = .ok []
      ∧ (((keyring "olm").call .clear).on k).1 = .ok .done
      ∧ (((keyring "olm").run [put, .clear] refusingFourth).ofService "olm").get? "secret"
        = some "s3cret" :=
  ⟨⟨_, rfl⟩, rfl, rfl, rfl, rfl⟩

end TunnelControl.Keyring
