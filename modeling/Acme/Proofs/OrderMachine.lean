import Acme.Proofs.ChallengeMachine

/-! Finalizing an order follows the machine: one certificate request, then polls. -/

namespace Acme

open Interaction

/-- An order for which no certificate request is even attempted. -/
def Order.Unfit (order : Order) : Prop :=
  order.url = "" ∨ order.identifiers = [] ∨
    ∃ identifier ∈ order.identifiers, identifier.kind ≠ "dns"

/-- An order as a machine: the certificate request is submitted, and its state asked for. -/
def Certificate.machine (lib : Libraries) (order : Order) (csrDer : Bytes) :
    Machine Order Order where
  target := order.finalize
  payload := Certificate.csrPayload lib csrDer
  url := order.url
  read := Order.refreshed lib order.url
  undecided seen := Undecided seen.status
  accepts seen final := final = seen ∧ seen.status = "valid" ∧ seen.certificate ≠ none

variable {lib : Libraries} {account : Account} {trace : History}

/-- Only the word `valid` stands for a valid order. -/
theorem Order.statusEnum_eq_valid {order : Order} :
    order.statusEnum = .valid ↔ order.status = "valid" := by
  unfold statusEnum OrderStatus.fromWire
  split <;> simp_all

/-- Only the word `invalid` stands for an invalid order. -/
theorem Order.statusEnum_eq_invalid {order : Order} :
    order.statusEnum = .invalid ↔ order.status = "invalid" := by
  unfold statusEnum OrderStatus.fromWire
  split <;> simp_all

/-- There is no verdict on an order exactly while its status is not final. -/
theorem Certificate.verdict_eq_none {order : Order} :
    Certificate.verdict order = none ↔ Undecided order.status := by
  -- A valid order has a verdict with and without a certificate.
  rw [Undecided, ← not_or, ← Order.statusEnum_eq_valid, ← Order.statusEnum_eq_invalid]
  unfold verdict
  cases order.statusEnum with
  | valid => by_cases missing : order.certificate = none <;> simp [missing]
  | _ => simp

/-- The verdict on an order is a success exactly when it is valid and has a certificate. -/
theorem Certificate.verdict_eq_ok {order final : Order} :
    Certificate.verdict order = some (.ok final) ↔
      final = order ∧ order.status = "valid" ∧ order.certificate ≠ none := by
  -- Only a valid order can succeed, and only with a certificate.
  rw [← Order.statusEnum_eq_valid]
  unfold verdict
  cases order.statusEnum with
  | valid => by_cases missing : order.certificate = none <;> simp [missing, eq_comm]
  | _ => simp

/-- An order is polled as its machine says. -/
theorem Certificate.poll_follows (order : Order) (csrDer : Bytes) (timeout : Duration) :
    (Certificate.poll lib order account timeout).Follows (Certificate.machine lib order csrDer)
      lib account where
  asked := rfl
  undecided _ := Certificate.verdict_eq_none
  accepts _ _ := Certificate.verdict_eq_ok
  foreign text := foreign_ok_bind fun answer => by
    unfold Order.parse
    -- A body that is no order is an error of its own.
    cases parsed : lib.parseOrder answer.body <;> simp [Except.mapError, bind, Except.bind]
  timely found text := by
    simp only [Certificate.poll, Certificate.verdict]
    cases found.statusEnum with
    -- A valid order is final, with a certificate or without one.
    | valid => by_cases missing : found.certificate = none <;> simp [missing]
    | _ => simp

/-- An identifier of another type than DNS leaves the names of a request unknown. -/
theorem dnsNames_unfit {identifiers : List Identifier}
    (foreign : ∃ identifier ∈ identifiers, identifier.kind ≠ "dns") :
    ∃ failure, Csr.dnsNames identifiers = .error failure := by
  induction identifiers with
  | nil => simp at foreign
  | cons first rest ih =>
    unfold Csr.dnsNames
    by_cases dns : first.kind = "dns"
    · -- The first identifier is fine, so one of the others is not.
      have later : ∃ identifier ∈ rest, identifier.kind ≠ "dns" := by simpa [dns] using foreign
      obtain ⟨failure, failed⟩ := ih later
      exact ⟨failure, by simp [dns, failed, bind, Except.bind]⟩
    · exact ⟨_, if_neg dns⟩

/-- Without names that are DNS names there is no certificate request. -/
theorem buildCsr_unfit {privateKey : CertificateKey} {order : Order} (unfit : order.Unfit)
    (home : order.url ≠ "") :
    ∃ failure, Csr.buildCsr lib privateKey order.identifiers = .error failure := by
  unfold Csr.buildCsr
  rcases unfit with homeless | empty | foreign
  · exact absurd homeless home
  · exact ⟨_, if_pos empty⟩
  · -- The names are collected before anything else is done with the identifiers.
    have nonempty : order.identifiers ≠ [] := by
      obtain ⟨identifier, member, _⟩ := foreign
      exact List.ne_nil_of_mem member
    obtain ⟨failure, failed⟩ := dnsNames_unfit foreign
    exact ⟨failure, by simp [nonempty, failed, bind, Except.bind]⟩

/-- What is read from an order's URL is an order with that URL. -/
theorem Order.refreshed_url {url : String} {answer : HttpResponse} {order : Order}
    (read : Order.refreshed lib url answer = .ok order) : order.url = url := by
  -- The URL is written into the parsed order at the end.
  obtain ⟨passed, _, rest⟩ := bind_eq_ok.mp read
  obtain ⟨parsed, _, made⟩ := bind_eq_ok.mp rest
  rw [← Except.ok.inj made]

/-- Either no certificate request can be built and nothing is sent, or the machine runs. -/
theorem finalize_machine {fuel : Nat} {order : Order} {privateKey : CertificateKey}
    {timeout pollInterval : Duration} {outcome : Except Stop Order} (home : order.url ≠ "")
    (run : (Certificate.finalizeWithIntervals lib (fuel + 1) order privateKey account timeout
      pollInterval).Ends trace outcome) :
    (∃ failure, Csr.buildCsr lib privateKey order.identifiers = .error failure ∧ trace = [] ∧
      outcome = .error (.error failure)) ∨
      ∃ csrDer, Csr.buildCsr lib privateKey order.identifiers = .ok csrDer ∧
        (Certificate.machine lib order csrDer).Runs account timeout trace outcome := by
  -- The certificate request is built before anything is sent.
  have follows : ∀ csrDer, (Certificate.poll lib order account timeout).Follows
      (Certificate.machine lib order csrDer) lib account :=
    fun csrDer => Certificate.poll_follows order csrDer timeout
  rcases finalize_loop run with ⟨ended, uncut⟩ |
    ⟨submission, csrDer, start, deadline, later, rfl, built, asked, representable, rest⟩
  · cases ended with
    -- The certificate request could not be built.
    | unbuilt failure unbuilt => exact .inl ⟨failure, unbuilt home, rfl, rfl⟩
    -- It was not accepted, so there is no loop.
    | @unsubmitted trace csrDer stop built asked =>
      have runs : (Certificate.machine lib order csrDer).Runs account timeout (trace ++ []) _ :=
        Machine.runs_unsubmitted asked rfl rfl
      rw [List.append_nil] at runs
      exact .inr ⟨csrDer, built, runs⟩
    | endless built asked overflow =>
      exact .inr ⟨_, built, Machine.runs_endless asked overflow rfl⟩
    | polled built asked representable polling =>
      exact .inr ⟨_, built, Machine.runs_polled (follows _) asked representable polling
        fun cut => absurd cut uncut⟩
  · -- A run that is cut short was polling.
    have polling := Poll.loop_run
      (uncut_question lib account order.url (Order.refreshed lib order.url)) rest
    exact .inr ⟨csrDer, built, Machine.runs_polled (follows csrDer) asked representable polling
      fun cut => Poll.loop_started rfl (cut ▸ rest)⟩

/-- An order without a URL is not finalized. -/
theorem finalize_homeless {fuel : Nat} {order : Order} {privateKey : CertificateKey}
    {timeout pollInterval : Duration} {outcome : Except Stop Order} (homeless : order.url = "")
    (run : (Certificate.finalizeWithIntervals lib fuel order privateKey account timeout
      pollInterval).Ends trace outcome) :
    trace = [] ∧ ∃ failure, outcome = .error (.error failure) := by
  -- The guard comes before the certificate request is built.
  unfold Certificate.finalizeWithIntervals at run
  rw [if_pos homeless, Fallible.ends_throw] at run
  exact ⟨run.1, _, run.2⟩

/-- An order follows the machine once its certificate request is built; before, nothing is sent. -/
theorem finalize_follows_machine {fuel : Nat} {order : Order} {privateKey : CertificateKey}
    {timeout pollInterval : Duration} {outcome : Except Stop Order}
    (run : (Certificate.finalizeWithIntervals lib (fuel + 1) order privateKey account timeout
      pollInterval).Ends trace outcome) :
    (order.Unfit → trace = [] ∧ ∃ failure, outcome = .error (.error failure)) ∧
      (¬ order.Unfit →
        (∀ failure, Csr.buildCsr lib privateKey order.identifiers = .error failure →
          trace = [] ∧ outcome = .error (.error failure)) ∧
        ∀ csrDer, Csr.buildCsr lib privateKey order.identifiers = .ok csrDer →
          (Certificate.machine lib order csrDer).Runs account timeout trace outcome) ∧
      ∀ final, outcome = .ok final → final.url = order.url := by
  by_cases homeless : order.url = ""
  · -- The missing URL is noticed before anything else.
    obtain ⟨rfl, failure, rfl⟩ := finalize_homeless homeless run
    exact ⟨fun _ => ⟨rfl, failure, rfl⟩, fun fit => absurd (.inl homeless) fit, by simp⟩
  · rcases finalize_machine homeless run with ⟨failure, unbuilt, rfl, rfl⟩ | ⟨csrDer, built, runs⟩
    · -- Without a certificate request nothing is sent, whatever the reason.
      refine ⟨fun _ => ⟨rfl, failure, rfl⟩, fun _ => ⟨fun other failed => ?_, fun csrDer built => ?_⟩,
        by simp⟩
      · rw [Except.error.inj (unbuilt.symm.trans failed)]
        exact ⟨rfl, rfl⟩
      · cases unbuilt.symm.trans built
    · refine ⟨fun unfit => ?_, fun _ => ⟨fun failure failed => ?_, fun other again => ?_⟩, ?_⟩
      · -- An order that is unfit has no certificate request.
        have unbuilt : ∃ failure, Csr.buildCsr lib privateKey order.identifiers = .error failure :=
          buildCsr_unfit unfit homeless
        obtain ⟨failure, failed⟩ := unbuilt
        cases built.symm.trans failed
      · cases built.symm.trans failed
      · rwa [← Except.ok.inj (built.symm.trans again)]
      · -- The order that is returned was read from the URL that was asked.
        intro final came
        obtain ⟨_, _, _, _, found, _, _, _, _, shown, same, _⟩ := (runs.succeeds final).mp came
        obtain ⟨answer, _, read⟩ := shown
        rw [same]
        exact Order.refreshed_url read

/-- An order that was created at some URL. -/
def placedOrder : Order := { sampleOrder "pending" "a.example" none with url := "ca/order/1" }

/-- That order is finalized by an authority that issues at the second look. -/
def finalizedOrder : History × Except Stop Order :=
  play [answering 200 "n0" [] "", answering 200 "n1" [] "",
      answering 200 "n2" [] (orderText "pending" "a.example" ""),
      answering 200 "n3" [] (orderText "valid" "a.example" certificateText)]
    (Certificate.finalizeWithIntervals sampleLibraries 2 placedOrder { keyPair := { der := [] } }
      sampleAccount (Duration.fromSecs 60) (Duration.fromSecs 2))

/-- Its finalization follows the machine. -/
theorem finalize_follows_machine_sample :
    (placedOrder.Unfit →
      finalizedOrder.1 = [] ∧ ∃ failure, finalizedOrder.2 = .error (.error failure)) ∧
      (¬ placedOrder.Unfit →
        (∀ failure, Csr.buildCsr sampleLibraries { keyPair := { der := [] } }
          placedOrder.identifiers = .error failure →
          finalizedOrder.1 = [] ∧ finalizedOrder.2 = .error (.error failure)) ∧
        ∀ csrDer, Csr.buildCsr sampleLibraries { keyPair := { der := [] } }
          placedOrder.identifiers = .ok csrDer →
          (Certificate.machine sampleLibraries placedOrder csrDer).Runs sampleAccount
            (Duration.fromSecs 60) finalizedOrder.1 finalizedOrder.2) ∧
      ∀ final, finalizedOrder.2 = .ok final → final.url = placedOrder.url :=
  finalize_follows_machine (play_ends _ _)

/-- The same order, while the transport only reports lapses of time. -/
def lapsedOrder : History × Except Stop Order :=
  play [.error (.timeout "connect")]
    (Certificate.finalizeWithIntervals sampleLibraries 2 placedOrder { keyPair := { der := [] } }
      sampleAccount (Duration.fromSecs 60) (Duration.fromSecs 2))

/-- Nothing is wrong with it, its request is not sent, and a lapse without a poll is reported. -/
theorem lapse_before_submission :
    (Certificate.finalizeWithIntervals sampleLibraries 2 placedOrder { keyPair := { der := [] } }
        sampleAccount (Duration.fromSecs 60) (Duration.fromSecs 2)).Ends lapsedOrder.1
          lapsedOrder.2 ∧
      ¬ placedOrder.Unfit ∧ posts lapsedOrder.1 = [] ∧
      lapsedOrder.2 = .error (.error (.timeout "connect")) := by
  have fit : ¬ placedOrder.Unfit := by
    simp [Order.Unfit, placedOrder, sampleOrder, Identifier.dns]
  -- How the run stopped is decided without comparing orders.
  have stopped : (match lapsedOrder.2 with | .ok _ => none | .error stop => some stop)
      = some (.error (.timeout "connect")) := by decide +kernel
  refine ⟨play_ends _ _, fit, by decide +kernel, ?_⟩
  cases ended : lapsedOrder.2 with
  | ok final => simp [ended] at stopped
  | error stop => simpa [ended] using stopped

end Acme
