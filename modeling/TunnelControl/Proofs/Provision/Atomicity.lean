/-
  TunnelControl.Proofs.Provision.Atomicity
  ────────────────────────────────────────
  **ALL AT ONCE, OR NOTHING AT ALL.**

  Provisioning looks up the service, applies the plan, claims the attempt, asks
  the platform and hands the descriptor over.  Whatever of this goes wrong, the
  provisioner and the descriptors are afterwards what they were before; a claim
  is given back to the attempt that it was taken from, since nothing else comes
  in between.  All of it is one question to the platform, or none, and a
  function of the answer.

    • `readied`, `concluded`, `provisionBy_eq` — what is left after the answer,
    • `provision_eq`, `provision_own` — platforms that remember, and the others,
    • `run_provisioning` — the steps of provisioning, and what they do to descriptors,
    • `AllOrNothing`, `provisioning_is_all_or_nothing`.
-/
import TunnelControl.Proofs.Provision.Ownership
import TunnelControl.Proofs.Provision.Plan
import TunnelControl.Provision.Asking

namespace TunnelControl

/-! ## §1. One equation. -/

/-- The builder that asks the platform, or what goes wrong before. -/
def Provisioner.readied (plan : InterfacePlan) (p : Provisioner) : Except ProvisionError Builder :=
  match p.service with
  | none => .error .noService
  | some s =>
      match plan.apply .empty with
      | (.error e, _) => .error e
      | (.ok (), spec) =>
          if p.claimed then .error .alreadyEstablished else .ok ⟨s, p.generation, spec⟩

theorem Provisioner.readied_eq_ok {plan : InterfacePlan} {p : Provisioner} {b : Builder}
    (ready : p.readied plan = .ok b) : p.service = some b.service ∧ b.generation = p.generation
      ∧ plan.apply .empty = (.ok (), b.spec) ∧ p.claimed = false := by
  unfold readied at ready
  split at ready
  next => cases ready
  next s attached =>
    split at ready
    next => cases ready
    next spec applied =>
      split at ready
      next => cases ready
      next free =>
        injection ready with made
        subst made
        exact ⟨attached, rfl, applied, Bool.eq_false_iff.mpr free⟩

theorem Provisioner.readied_of_free {plan : InterfacePlan} {p : Provisioner} {s : Service}
    {spec : InterfaceSpec} (attached : p.service = some s)
    (applied : plan.apply .empty = (.ok (), spec)) (free : p.claimed = false) :
    p.readied plan = .ok ⟨s, p.generation, spec⟩ := by
  unfold readied
  simp [attached, applied, free]

theorem Provisioner.readied_eq_error_iff {plan : InterfacePlan} {p : Provisioner}
    {e : ProvisionError} : p.readied plan = .error e ↔ (p.service = none ∧ e = .noService)
      ∨ ∃ s, p.service = some s ∧ ((plan.apply .empty).1 = .error e
        ∨ ∃ spec, plan.apply .empty = (.ok (), spec) ∧ p.claimed = true
          ∧ e = .alreadyEstablished) := by
  unfold readied
  cases p.service with
  | none => simpa using eq_comm
  | some s =>
      match plan.apply .empty with
      | (.error cause, _) => simp
      | (.ok (), spec) =>
          cases p.claimed with
          | true => simpa using eq_comm
          | false => simp

/-- What an answer of the platform leads to. -/
def Builder.concluded (b : Builder) (p : Provisioner) (host : Host) :
    Except String Unit → Except ProvisionError Nat × Provisioner × Host
  | .ok () => (.ok host.grants.length, { p with claimed := true },
      ⟨host.grants ++ [⟨b.service.id, b.spec, .handedOver⟩]⟩)
  | .error cause => (.error (.denied cause), p, host)

/-- What a plan describes can always be asked for. -/
theorem InterfacePlan.apply_usable {plan : InterfacePlan} {spec : InterfaceSpec}
    (applied : plan.apply .empty = (.ok (), spec)) : spec.checkUsable = .ok () := by
  rw [apply_empty] at applied
  split at applied
  next =>
    split at applied
    next =>
      rw [← (Prod.mk.inj applied).2]
      rfl
    next => cases (Prod.mk.inj applied).1
  next => cases (Prod.mk.inj applied).1

/-- What is left when an interface that is established is handed over. -/
def handOver : Except ProvisionError Handle × Provisioner × Host →
    Except ProvisionError Nat × Provisioner × Host
  | (.error e, p, host) => (.error e, p, host)
  | (.ok handle, p, host) =>
      let (result, handle, host) := handle.detach host
      (result, p, handle.drop host)

/-- The descriptor that was granted last comes into a condition. -/
theorem Host.settle_grant (serviceId : Nat) (spec : InterfaceSpec) (c : Condition) (host : Host) :
    (host.grant serviceId spec).2.settle host.grants.length c
      = ⟨host.grants ++ [⟨serviceId, spec, c⟩]⟩ := by
  show (⟨(host.grants ++ [_]).modify _ _⟩ : Host) = _
  rw [List.modify_eq_set_getElem?, List.getElem?_concat_length]
  show (⟨(host.grants ++ [_]).set _ _⟩ : Host) = _
  rw [List.set_append_right _ _ (Nat.le_refl _), Nat.sub_self]
  rfl

/-- The claim that was taken for a builder is kept if the platform agrees, and
given back if not. -/
theorem Builder.handOver_answered {b : Builder} {p : Provisioner}
    (current : b.generation = p.generation) (free : p.claimed = false) (host : Host)
    (answer : Except String Unit) :
    handOver (b.answered answer { p with claimed := true } host) = b.concluded p host answer := by
  cases answer with
  | ok u =>
      show (Except.ok host.grants.length, { p with claimed := true },
        (host.grant b.service.id b.spec).2.settle host.grants.length .handedOver) = _
      rw [Host.settle_grant]
      rfl
  | error cause =>
      -- no other attempt has begun, so the claim goes back to where it came from
      have back : ({ p with claimed := true } : Provisioner).release b.generation = p := by
        unfold Provisioner.release
        rw [if_pos current.symm, ← free]
      show (Except.error (ProvisionError.denied cause),
        ({ p with claimed := true } : Provisioner).release b.generation, host) = _
      rw [back]
      rfl

section

variable {M : Type → Type} [Monad M] [LawfulMonad M]
variable (ask : Service → InterfaceSpec → M (Except String Unit))

theorem Builder.establishBy_eq {b : Builder} {p : Provisioner}
    (usable : b.spec.checkUsable = .ok ()) (current : b.generation = p.generation) (host : Host) :
    b.establishBy ask p host
      = if p.claimed then pure (.error .alreadyEstablished, p, host)
        else (fun answer => b.answered answer { p with claimed := true } host)
          <$> ask b.service b.spec := by
  unfold establishBy
  rw [Workshop.claim_of_current current usable]
  cases p.claimed with
  | true => rfl
  | false => exact (map_eq_pure_bind _ _).symm

/-- **The platform is asked once or not at all**, and all else is a function of
its answer. -/
theorem provisionBy_eq (plan : InterfacePlan) (p : Provisioner) (host : Host) :
    provisionBy ask plan p host = match p.readied plan with
      | .error e => pure (.error e, p, host)
      | .ok b => b.concluded p host <$> ask b.service b.spec := by
  -- handing over depends on what was established alone, so it is mapped over that
  have handed : provisionBy ask plan p host = match p.newBuilder with
      | .error e => pure (.error e, p, host)
      | .ok b => match plan.apply b.spec with
        | (.error e, _) => pure (.error e, p, host)
        | (.ok (), spec) => handOver <$> { b with spec := spec }.establishBy ask p host := by
    unfold provisionBy
    cases p.newBuilder with
    | error e => rfl
    | ok b =>
        dsimp only
        match plan.apply b.spec with
        | (.error e, _) => rfl
        | (.ok (), spec) =>
            dsimp only
            rw [map_eq_pure_bind]
            congr
            funext established
            match established with
            | (.error e, p, host) => rfl
            | (.ok handle, p, host) => rfl
  rw [handed]
  unfold Provisioner.newBuilder Provisioner.readied
  cases p.service with
  | none => rfl
  | some s =>
      dsimp only
      match applied : plan.apply .empty with
      | (.error e, _) => rfl
      | (.ok (), spec) =>
          dsimp only
          rw [Builder.establishBy_eq ask (plan.apply_usable applied) rfl]
          cases free : p.claimed with
          | true => exact map_pure _ _
          | false =>
              show handOver <$> (_ <$> _) = _
              rw [← comp_map]
              congr
              funext answer
              exact Builder.handOver_answered rfl free host answer

end

/-! ## §2. Platforms that remember. -/

theorem Behaviour.provision_eq (behaviour : Behaviour) (plan : InterfacePlan) (p : Provisioner)
    (host : Host) (past : List Question) :
    behaviour.provision plan p host past = match p.readied plan with
      | .error e => ⟨.error e, p, host, past⟩
      | .ok b =>
          let left := b.concluded p host (behaviour past b.service b.spec)
          ⟨left.1, left.2.1, left.2.2, past ++ [⟨b.service.id, b.spec⟩]⟩ := by
  unfold provision
  rw [provisionBy_eq]
  cases p.readied plan with
  | error e => rfl
  | ok b => rfl

/-- Either a builder is refused, or the platform refuses it. -/
theorem Behaviour.provision_error_iff {behaviour : Behaviour} {plan : InterfacePlan}
    {p : Provisioner} {host : Host} {past : List Question} {e : ProvisionError} :
    (behaviour.provision plan p host past).result = .error e ↔ p.readied plan = .error e
      ∨ ∃ b cause, p.readied plan = .ok b ∧ behaviour past b.service b.spec = .error cause
        ∧ e = .denied cause := by
  rw [provision_eq]
  cases p.readied plan with
  | error e' => simp
  | ok b =>
      cases answer : behaviour past b.service b.spec with
      | ok u => simp [Builder.concluded, answer]
      | error cause => simp [Builder.concluded, answer, eq_comm]

/-- **Whatever has failed, nothing is left of it.** -/
theorem Behaviour.provision_unchanged {behaviour : Behaviour} {plan : InterfacePlan}
    {p : Provisioner} {host : Host} {past : List Question} {e : ProvisionError}
    (fails : (behaviour.provision plan p host past).result = .error e) :
    (behaviour.provision plan p host past).provisioner = p
      ∧ (behaviour.provision plan p host past).host = host := by
  rw [provision_eq]
  rcases provision_error_iff.mp fails with refused | ⟨b, cause, ready, refuses, -⟩
  · rw [refused]
    exact ⟨rfl, rfl⟩
  · rw [ready]
    dsimp only
    rw [refuses]
    exact ⟨rfl, rfl⟩

/-- Provisioning succeeds only if the platform of the service agrees. -/
theorem Behaviour.provision_ok {behaviour : Behaviour} {plan : InterfacePlan} {p : Provisioner}
    {host : Host} {past : List Question} {d : Nat}
    (success : (behaviour.provision plan p host past).result = .ok d) :
    ∃ b, p.readied plan = .ok b ∧ behaviour past b.service b.spec = .ok ()
      ∧ d = host.grants.length
      ∧ behaviour.provision plan p host past = ⟨.ok d, { p with claimed := true },
        ⟨host.grants ++ [⟨b.service.id, b.spec, .handedOver⟩]⟩, past ++ [⟨b.service.id, b.spec⟩]⟩ := by
  rw [provision_eq] at success ⊢
  cases ready : p.readied plan with
  | error e =>
      rw [ready] at success
      cases success
  | ok b =>
      rw [ready] at success
      cases answer : behaviour past b.service b.spec with
      | error cause =>
          simp only [answer] at success
          cases success
      | ok u =>
          simp only [answer] at success
          cases success
          exact ⟨b, rfl, answer, rfl, by simp [Builder.concluded, answer]⟩

/-- A claim that was taken is refused, and nobody is asked. -/
theorem Behaviour.provision_of_claimed {behaviour : Behaviour} {plan : InterfacePlan}
    {p : Provisioner} {spec : InterfaceSpec} (attached : p.service ≠ none)
    (applied : plan.apply .empty = (.ok (), spec)) (taken : p.claimed = true) (host : Host)
    (past : List Question) :
    behaviour.provision plan p host past = ⟨.error .alreadyEstablished, p, host, past⟩ := by
  obtain ⟨s, attached⟩ := Option.ne_none_iff_exists'.mp attached
  rw [provision_eq, Provisioner.readied_eq_error_iff.mpr
    (.inr ⟨s, attached, .inr ⟨spec, applied, taken, rfl⟩⟩)]

/-- **Where each platform answers by itself, this is `provisionAndDetach`.** -/
theorem Behaviour.provision_own (plan : InterfacePlan) (p : Provisioner) (host : Host)
    (past : List Question) :
    let after := own.provision plan p host past
    (after.result, after.provisioner, after.host) = provisionAndDetach plan p host := by
  have plain : provisionAndDetach plan p host
      = provisionBy (M := Id) (fun s spec => pure (s.platform.establish spec)) plan p host := by
    unfold provisionAndDetach provisionBy Builder.establish Builder.establishBy
    rfl
  rw [plain, provisionBy_eq, provision_eq]
  cases p.readied plan with
  | error e => rfl
  | ok b => rfl

/-! ## §3. The steps of provisioning. -/

namespace Workshop

/-- What a run does to descriptors, in order. -/
def events : List Step → Workshop → List Event
  | [], _ => []
  | s :: steps, w => (w.eventBy s).toList ++ events steps (w.step s)

/-- The steps of provisioning with a platform that agrees; the job of this
position is a new one. -/
def provisioning (plan : InterfacePlan) (i : Nat) : List Step :=
  [.openJob, .enter i, .edit i (.plan plan), .claim i, .answer i (.ok ()), .detachHandle i,
    .dropHandle i]

/-- **With nothing in between, the steps of provisioning are `provisionBy`**;
they grant a descriptor and hand it over, and do nothing else to it. -/
theorem run_provisioning {plan : InterfacePlan} {w : Workshop} {b : Builder}
    (ready : w.provisioner.readied plan = .ok b) :
    let steps := provisioning plan w.jobs.length
    ((w.run steps).provisioner, (w.run steps).host) = (b.concluded w.provisioner w.host (.ok ())).2
      ∧ w.events steps
        = [⟨w.host.grants.length, .owned⟩, ⟨w.host.grants.length, .handedOver⟩] := by
  obtain ⟨attached, current, applied, free⟩ := Provisioner.readied_eq_ok ready
  have claims : b.claim w.provisioner = .ok { w.provisioner with claimed := true } := by
    rw [claim_of_current current (plan.apply_usable applied), free]
    rfl
  obtain ⟨service, generation, spec⟩ := b
  subst current
  -- the job stands last all the time, and each step finds it there
  constructor
  · simp [provisioning, step, openJob, attached, enter, edit, claim, answer, detachHandle,
      dropHandle, setJob, Edit.apply, applied, claims, Handle.detach, Handle.drop,
      Builder.concluded]
    exact Host.settle_grant service.id spec .handedOver w.host
  · simp [provisioning, events, eventBy, step, openJob, attached, enter, edit, claim, answer,
      detachHandle, setJob, Edit.apply, applied, claims, Handle.detach, heldBy, Job.descriptor,
      Except.toOption, Host.grant]

end Workshop

/-! ## §4. What goes wrong. -/

/-- What provisioning fails with: the first of these that applies. -/
inductive InterfacePlan.FailsWith (behaviour : Behaviour) (plan : InterfacePlan) (p : Provisioner)
    (past : List Question) : ProvisionError → Prop where
  | noService (nobody : p.service = none) : FailsWith behaviour plan p past .noService
  | mtu (s : Service) (attached : p.service = some s)
      (out : ¬ (1280 ≤ plan.mtu.toNat ∧ plan.mtu.toNat ≤ 1500)) :
      FailsWith behaviour plan p past (.invalidMtu plan.mtu)
  | address (s : Service) (cause : AddressError) (attached : p.service = some s)
      (range : 1280 ≤ plan.mtu.toNat ∧ plan.mtu.toNat ≤ 1500)
      (invalid : IpPrefix.ofCidr plan.tunnelIp = .error cause) :
      FailsWith behaviour plan p past (.address cause)
  /-- The claim is refused. -/
  | claimed (s : Service) (spec : InterfaceSpec) (attached : p.service = some s)
      (applied : plan.apply .empty = (.ok (), spec)) (taken : p.claimed = true) :
      FailsWith behaviour plan p past .alreadyEstablished
  /-- The platform refuses. -/
  | denied (s : Service) (spec : InterfaceSpec) (cause : String) (attached : p.service = some s)
      (applied : plan.apply .empty = (.ok (), spec)) (free : p.claimed = false)
      (refuses : behaviour past s spec = .error cause) :
      FailsWith behaviour plan p past (.denied cause)

theorem InterfacePlan.failsWith_of_readied {behaviour : Behaviour} {plan : InterfacePlan}
    {p : Provisioner} {past : List Question} {e : ProvisionError}
    (refused : p.readied plan = .error e) : plan.FailsWith behaviour p past e := by
  rcases Provisioner.readied_eq_error_iff.mp refused with
    ⟨nobody, rfl⟩ | ⟨s, attached, bad | ⟨spec, applied, taken, rfl⟩⟩
  · exact .noService nobody
  · rcases (plan.applied_empty.refused e).mp bad with ⟨out, rfl⟩ | ⟨range, cause, invalid, rfl⟩
    · exact .mtu s attached out
    · exact .address s cause attached range invalid
  · exact .claimed s spec attached applied taken

/-- **Provisioning fails for one of these reasons**, and for no other. -/
theorem Behaviour.failed_iff {behaviour : Behaviour} {plan : InterfacePlan} {p : Provisioner}
    {host : Host} {past : List Question} {e : ProvisionError} :
    (behaviour.provision plan p host past).result = .error e
      ↔ plan.FailsWith behaviour p past e := by
  rw [provision_error_iff]
  constructor
  · rintro (refused | ⟨b, cause, ready, refuses, rfl⟩)
    · exact plan.failsWith_of_readied refused
    · obtain ⟨attached, -, applied, free⟩ := Provisioner.readied_eq_ok ready
      exact .denied b.service b.spec cause attached applied free refuses
  · have invalid := plan.applied_empty.refused
    intro fails
    cases fails with
    | noService nobody => exact .inl (Provisioner.readied_eq_error_iff.mpr (.inl ⟨nobody, rfl⟩))
    | mtu s attached out =>
        exact .inl (Provisioner.readied_eq_error_iff.mpr
          (.inr ⟨s, attached, .inl ((invalid _).mpr (.inl ⟨out, rfl⟩))⟩))
    | address s cause attached range bad =>
        exact .inl (Provisioner.readied_eq_error_iff.mpr
          (.inr ⟨s, attached, .inl ((invalid _).mpr (.inr ⟨range, cause, bad, rfl⟩))⟩))
    | claimed s spec attached applied taken =>
        exact .inl (Provisioner.readied_eq_error_iff.mpr
          (.inr ⟨s, attached, .inr ⟨spec, applied, taken, rfl⟩⟩))
    | denied s spec cause attached applied free refuses =>
        exact .inr ⟨_, cause, Provisioner.readied_of_free attached applied free, refuses, rfl⟩

/-! ## §5. The main result. -/

/-- What provisioning leaves, whatever happens. -/
structure AllOrNothing (behaviour : Behaviour) (plan : InterfacePlan) (p : Provisioner)
    (host : Host) (past : List Question) (after : Provisioned) : Prop where
  /-- It fails if a step of it fails, -/
  failed : ∀ e, after.result = .error e ↔ plan.FailsWith behaviour p past e
  /-- and then the attempt, its claim, the service and all descriptors are as
  before. -/
  nothing : ∀ e, after.result = .error e → after.provisioner = p ∧ after.host = host
  /-- If it succeeds, the platform was asked once, with what the plan describes,
  and agreed; -/
  asked : ∀ d, after.result = .ok d → ∃ s spec, p.service = some s
    ∧ plan.apply .empty = (.ok (), spec) ∧ after.asked = past ++ [⟨s.id, spec⟩]
    ∧ behaviour past s spec = .ok ()
    -- the descriptor is the one that was granted
    ∧ d = host.grants.length ∧ after.host.grants = host.grants ++ [⟨s.id, spec, .handedOver⟩]
  /-- the attempt was free, and is claimed now; -/
  claimed : ∀ d, after.result = .ok d →
    p.claimed = false ∧ after.provisioner = { p with claimed := true }
  /-- the descriptor was granted and handed over, once each, and never closed; -/
  transferred : ∀ d, after.result = .ok d →
    ∀ w : Workshop, w.provisioner = p → w.host = host →
      let steps := Workshop.provisioning plan w.jobs.length
      (w.run steps).provisioner = after.provisioner ∧ (w.run steps).host = after.host
        ∧ w.events steps = [⟨d, .owned⟩, ⟨d, .handedOver⟩]
  /-- and in the same attempt it fails from now on, and nobody is asked. -/
  again : ∀ d, after.result = .ok d → ∀ later : Provisioner, later.service ≠ none →
    later.generation = after.provisioner.generation →
    later.claimed = after.provisioner.claimed →
      ∀ (behaviour' : Behaviour) (host' : Host) (past' : List Question),
        behaviour'.provision plan later host' past' = ⟨.error .alreadyEstablished, later, host', past'⟩
  /-- It never finds a handle detached or a description unusable. -/
  never : after.result ≠ .error .alreadyDetached ∧ ∀ fault, after.result ≠ .error (.unusable fault)
  /-- Where each platform answers by itself, this is what runs. -/
  own : behaviour = .own →
    (after.result, after.provisioner, after.host) = provisionAndDetach plan p host

/-- **Provisioning does all of it or nothing**, in every state, for every plan
and however platforms answer. -/
theorem provisioning_is_all_or_nothing (behaviour : Behaviour) (plan : InterfacePlan)
    (p : Provisioner) (host : Host) (past : List Question) :
    AllOrNothing behaviour plan p host past (behaviour.provision plan p host past) := by
  refine ⟨fun e => Behaviour.failed_iff, fun e => Behaviour.provision_unchanged, ?_, ?_, ?_, ?_,
    ⟨?_, ?_⟩, ?_⟩
  · intro d success
    obtain ⟨b, ready, agrees, granted, after⟩ := Behaviour.provision_ok success
    obtain ⟨attached, -, applied, -⟩ := Provisioner.readied_eq_ok ready
    rw [after]
    exact ⟨b.service, b.spec, attached, applied, rfl, agrees, granted, rfl⟩
  · intro d success
    obtain ⟨b, ready, -, -, after⟩ := Behaviour.provision_ok success
    obtain ⟨-, -, -, free⟩ := Provisioner.readied_eq_ok ready
    rw [after]
    exact ⟨free, rfl⟩
  · intro d success w provisioner same steps
    obtain ⟨b, ready, -, granted, after⟩ := Behaviour.provision_ok success
    subst provisioner same granted
    obtain ⟨state, events⟩ := Workshop.run_provisioning ready
    rw [after]
    exact ⟨congrArg Prod.fst state, congrArg Prod.snd state, events⟩
  · intro d success later attached _ claim behaviour' host' past'
    obtain ⟨b, ready, -, -, after⟩ := Behaviour.provision_ok success
    obtain ⟨-, -, applied, -⟩ := Provisioner.readied_eq_ok ready
    rw [after] at claim
    exact Behaviour.provision_of_claimed attached applied claim host' past'
  · intro fails
    cases Behaviour.failed_iff.mp fails
  · intro fault fails
    cases Behaviour.failed_iff.mp fails
  · rintro rfl
    exact Behaviour.provision_own plan p host past

end TunnelControl
