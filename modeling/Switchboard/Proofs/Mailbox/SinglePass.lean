import Switchboard.Proofs.Mailbox.Availability

namespace Switchboard.Mailbox

open Operation

variable {context : Context} {run left : Run} {name : String}

def ClaimAttempt.found : Option Message → ClaimAttempt
  | some message => .claimed message
  | none => .empty

/-- One store becomes another when the oldest message that waits for a name is taken: no row changes but
that of this message, and none at all if no message waits. -/
def Takes (name : String) (now : Timestamp) (before after : Store) : Option Message → Prop
  | some message => ∃ claimed, after = before.withMessages claimed ∧
      Claims name now (before.tables.rows Message) message claimed.list
  | none => waiting name (before.tables.rows Message) = [] ∧ after = before

/-- One store becomes another when all messages that wait for a name are taken: no row changes but those
of these messages. -/
def TakesAll (name : String) (now : Timestamp) (before after : Store) (messages : List Message) :
    Prop :=
  ∃ claimed, after = before.withMessages claimed ∧
    ClaimsAll name now (before.tables.rows Message) messages claimed.list

/-- A pass that claims the oldest message, and what to do if the claim is lost. -/
def claimOnce (name : String) (whenLost : Int → Operation (Option Message)) :
    Operation (Option Message) := do
  match ← transaction (claimOldest name) with
  | .claimed message =>
    notify (.messageClaimed message.id name)
    pure (some message)
  | .empty => pure none
  | .lost id => whenLost id

/-- A pass that claims all that waits, and what to do if the claim is given up. -/
def drainOnce (name : String) (whenLost : Operation (List Message)) : Operation (List Message) := do
  match ← transactionIf Option.isSome (claimAll name) with
  | some messages =>
    notify (.mailboxDrained messages.length name)
    pure messages
  | none => whenLost

theorem claimNext_succ (name : String) (passes : Nat) :
    claimNext name (passes + 1) = claimOnce name (fun id => do
      notify (.claimLost id name)
      claimNext name passes) := rfl

theorem drainNext_succ (name : String) (passes : Nat) :
    drainNext name (passes + 1) = drainOnce name (do
      notify (.drainLost name)
      drainNext name passes) := rfl

theorem perform_claimOnce (whenLost other : Int → Operation (Option Message)) :
    perform (claimOnce name whenLost) context run = perform (claimOnce name other) context run := by
  unfold claimOnce
  rw [perform_bind, perform_bind]
  rcases htransaction : perform (transaction (claimOldest name)) context run with
    ⟨failure | attempt, ended⟩
  · rfl
  · obtain ⟨rfl, -⟩ | ⟨m, -, rfl, -⟩ := claimTransaction_cases htransaction <;> rfl

theorem perform_drainOnce (whenLost other : Operation (List Message)) :
    perform (drainOnce name whenLost) context run = perform (drainOnce name other) context run := by
  unfold drainOnce
  rw [perform_bind, perform_bind]
  rcases htransaction : perform (transactionIf Option.isSome (claimAll name)) context run with
    ⟨failure | answer, ended⟩
  · rfl
  · obtain ⟨messages, -, rfl, -⟩ := drainTransaction_cases htransaction
    rfl

theorem perform_claimNext (passes : Nat) (whenLost : Int → Operation (Option Message)) :
    perform (claimNext name (passes + 1)) context run =
      perform (claimOnce name whenLost) context run := by
  rw [claimNext_succ]
  exact perform_claimOnce _ whenLost

theorem perform_drainNext (passes : Nat) (whenLost : Operation (List Message)) :
    perform (drainNext name (passes + 1)) context run =
      perform (drainOnce name whenLost) context run := by
  rw [drainNext_succ]
  exact perform_drainOnce _ whenLost

theorem perform_tryReceive_once (whenLost : Int → Operation (Option Message)) :
    perform (tryReceive name) context run =
      perform (connect >>= fun _ => claimOnce name whenLost) context run := by
  unfold tryReceive
  rw [perform_bind, perform_bind]
  rcases perform connect context run with ⟨failure | _, connected⟩
  · rfl
  · exact perform_claimNext _ whenLost

theorem perform_drain_once (whenLost : Operation (List Message)) :
    perform (drain name) context run =
      perform (connect >>= fun _ => drainOnce name whenLost) context run := by
  unfold drain
  rw [perform_bind, perform_bind]
  rcases perform connect context run with ⟨failure | _, connected⟩
  · rfl
  · exact perform_drainNext _ whenLost

theorem takes_of_claimOldest {attempt : ClaimAttempt}
    (h : perform (claimOldest name) context run = (.ok attempt, left)) :
    ∃ message, attempt = .found message ∧ Takes name context.now run.store left.store message := by
  obtain ⟨rfl, hwaiting, hleft⟩ | ⟨m, claimed, rfl, hclaims, hleft⟩ := claimOldest_cases h
  · exact ⟨none, rfl, hwaiting, hleft⟩
  · exact ⟨some m, rfl, claimed, hleft, hclaims⟩

theorem takes_of_tryReceive {message : Option Message}
    (h : perform (tryReceive name) context run = (.ok message, left)) :
    ∃ connected, run.store.Settled connected ∧
      Takes name context.now connected left.store message := by
  obtain ⟨connected, hsettled, hcases⟩ := tryReceive_cases h
  rw [← hsettled.sameContent.messages] at hcases
  refine ⟨connected, hsettled, ?_⟩
  obtain ⟨rfl, hwaiting, hleft⟩ | ⟨m, claimed, rfl, hclaims, hleft⟩ := hcases
  · exact ⟨hwaiting, hleft⟩
  · exact ⟨claimed, hleft, hclaims⟩

theorem takesAll_of_drain {messages : List Message}
    (h : perform (drain name) context run = (.ok messages, left)) :
    ∃ connected, run.store.Settled connected ∧
      TakesAll name context.now connected left.store messages := by
  obtain ⟨connected, claimed, hsettled, hleft, hclaims⟩ := drain_cases h
  rw [← hsettled.sameContent.messages] at hclaims
  exact ⟨connected, hsettled, claimed, hleft, hclaims⟩

/-- Whatever stands in the table of messages, claiming never has to be tried again. An attempt to claim
the oldest message is never lost, and claiming all of them is never given up, as the bulk claim changes as
many rows as were read and picks exactly those that wait. So receiving and draining come to what they
come to in one pass, whatever would follow another one, and they change no row but those of the messages
that they answer. Where nothing stands in the way and the rows can be read, both succeed. -/
theorem claiming_takes_one_pass (name : String) (context : Context) (run : Run) :
    let rows := run.store.tables.rows Message
    (∀ attempt left, perform (claimOldest name) context run = (.ok attempt, left) →
      ∃ message, attempt = .found message ∧
        Takes name context.now run.store left.store message) ∧
    (∀ answer left, perform (claimAll name) context run = (.ok answer, left) →
      ∃ messages, answer = some messages ∧
        TakesAll name context.now run.store left.store messages) ∧
    (∀ entries newest count after,
      (waiting name rows).mapM (Entry.read Message.columns) =
          (.ok entries : Except EngineError _) →
      entries.getLast? = some newest →
      (Statement.update (fun e => e.waitsFor name && e.record.id ≤ newest.record.id) claimColumns
        (Message.claimFor name context.now)).run run.store = .ok (count, after) →
      count = entries.length ∧
        rows.filter (fun e => e.waitsFor name && e.record.id ≤ newest.record.id) =
          waiting name rows) ∧
    (∀ whenLost, perform (tryReceive name) context run =
      perform (connect >>= fun _ => claimOnce name whenLost) context run) ∧
    (∀ whenLost, perform (drain name) context run =
      perform (connect >>= fun _ => drainOnce name whenLost) context run) ∧
    (∀ message left, perform (tryReceive name) context run = (.ok message, left) →
      ∃ connected, run.store.Settled connected ∧
        Takes name context.now connected left.store message) ∧
    (∀ messages left, perform (drain name) context run = (.ok messages, left) →
      ∃ connected, run.store.Settled connected ∧
        TakesAll name context.now connected left.store messages) ∧
    (run.Undisturbed run.store → run.store.tables.Own → Legible name rows →
      (∃ message left, perform (tryReceive name) context run = (.ok message, left)) ∧
        ∃ messages left, perform (drain name) context run = (.ok messages, left)) := by
  intro rows
  refine ⟨fun attempt left => takes_of_claimOldest, fun answer left hclaim => ?_,
    fun entries newest count after hread hnewest hupdate => ?_, perform_tryReceive_once,
    perform_drain_once, fun message left => takes_of_tryReceive,
    fun messages left => takesAll_of_drain, fun hrun hown hlegible => ?_⟩
  · obtain ⟨messages, claimed, rfl, hleft, hclaims⟩ := claimAll_cases hclaim
    exact ⟨messages, rfl, claimed, hleft, hclaims⟩
  · refine ⟨(claimWaiting_ok hread hnewest hupdate).1, ?_⟩
    exact List.filter_congr (picks_waiting hread hnewest)
  · refine ⟨?_, drain_succeeds hrun hown hlegible⟩
    obtain ⟨message, _, _, hreceive⟩ := tryReceive_succeeds hrun hown hlegible
    exact ⟨message, _, hreceive⟩

/-- Of five rows that nobody has sent, with ids down to below zero and up to the largest, two wait for the
worker. One is for somebody else, one has been claimed, and one holds a stray mark of being claimed. A
drain answers the two, and would so if it gave up as soon as a claim is lost. -/
theorem unsent_rows_are_drained_in_one_pass :
    let message (id : Int) (target : String) : Message := .unclaimed id .epoch none target "body"
    let rows : Rows (Entry Message) := ⟨[⟨message (-7) "worker", []⟩, ⟨message (-1) "other", []⟩,
      ⟨(message 0 "worker").claimFor "other" .epoch, []⟩,
      ⟨message 5 "worker", [("claimed", .int 2)]⟩,
      ⟨message 9223372036854775807 "worker", []⟩], by decide⟩
    let store : Store := { tables := { messages := .holding rows } }
    let run : Run := { store }
    let context := Client.atEpoch.context
    let givenUp : Operation (List Message) := throw (.statement .drainMailbox .full)
    run.Undisturbed store ∧ store.tables.Own ∧ Legible "worker" rows.list ∧
      (perform (connect >>= fun _ => drainOnce "worker" givenUp) context run).1 =
        .ok [(message (-7) "worker").claimFor "worker" .epoch,
          (message 9223372036854775807 "worker").claimFor "worker" .epoch] ∧
      (∃ message left, perform (tryReceive "worker") context run = (.ok message, left)) ∧
      ∃ messages left, perform (drain "worker") context run = (.ok messages, left) := by
  intro message rows store run context givenUp
  have hrun : run.Undisturbed store := ⟨rfl, ⟨rfl, rfl, rfl, rfl, rfl⟩, nofun⟩
  have hown : store.tables.Own := by
    intro name
    cases name <;> rfl
  have hlegible : Legible "worker" rows.list := by
    intro e he
    have hplain : e.stray = [] := by
      revert e
      decide
    exact ⟨e, Entry.read_of_stray_eq_nil _ e hplain⟩
  have hdrain : (perform (drain "worker") context run).1 =
      .ok [(message (-7) "worker").claimFor "worker" .epoch,
        (message 9223372036854775807 "worker").claimFor "worker" .epoch] := by decide +kernel
  obtain ⟨-, -, -, -, honce, -, -, hsucceeds⟩ := claiming_takes_one_pass "worker" context run
  exact ⟨hrun, hown, hlegible, honce givenUp ▸ hdrain, hsucceeds hrun hown hlegible⟩

end Switchboard.Mailbox
