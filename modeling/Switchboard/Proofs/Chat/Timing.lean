import Switchboard.Proofs.Chat.Dealings

/-! The times of a session. A request that reads the clock does so before anything else, and may be refused after
that; what it says or changes is stamped with this one reading. A clock that never goes back therefore shows in every
session, although a node to wait at is set without a look at it. -/
namespace Switchboard

/-- The times of a session follow one another: it begins before its messages, these come in the order in which they
stand, and it is updated no earlier than any of them. -/
structure Session.KeepsTime (s : Session) : Prop where
  ordered : (s.messages.map Message.timestamp).Pairwise Instant.notAfter
  begins : ∀ m ∈ s.messages, s.createdAt.notAfter m.timestamp
  updated : ∀ m ∈ s.messages, m.timestamp.notAfter s.updatedAt
  lasts : s.createdAt.notAfter s.updatedAt

namespace Session

variable {s t : Session}

theorem keepsTime_new (fresh : SessionId) (customer : String) (now : Instant) :
    (Session.new fresh customer now).KeepsTime where
  ordered := List.Pairwise.nil
  begins := List.forall_mem_nil _
  updated := List.forall_mem_nil _
  lasts := now.notAfter_refl

theorem KeepsTime.of_same (keeps : s.KeepsTime) (messages : t.messages = s.messages)
    (created : t.createdAt = s.createdAt) (late : s.updatedAt.notAfter t.updatedAt) : t.KeepsTime where
  ordered := messages ▸ keeps.ordered
  begins := by
    rw [messages, created]
    exact keeps.begins
  updated := by
    rw [messages]
    intro m member
    exact Instant.notAfter_trans (keeps.updated m member) late
  lasts := created ▸ Instant.notAfter_trans keeps.lasts late

theorem KeepsTime.say (keeps : s.KeepsTime) {message : Message} (late : s.updatedAt.notAfter message.timestamp) :
    (s.say message).KeepsTime where
  ordered := by
    rw [Session.say, List.map_append, List.pairwise_append]
    refine ⟨keeps.ordered, List.pairwise_singleton .., ?_⟩
    intro earlier member last same
    obtain ⟨m, known, rfl⟩ := List.mem_map.1 member
    cases List.mem_singleton.1 same
    exact Instant.notAfter_trans (keeps.updated m known) late
  begins := by
    change ∀ m ∈ s.messages ++ [message], s.createdAt.notAfter m.timestamp
    rw [List.forall_mem_append, List.forall_mem_singleton]
    exact ⟨keeps.begins, Instant.notAfter_trans keeps.lasts late⟩
  updated := by
    change ∀ m ∈ s.messages ++ [message], m.timestamp.notAfter message.timestamp
    rw [List.forall_mem_append, List.forall_mem_singleton]
    refine ⟨?_, message.timestamp.notAfter_refl⟩
    intro m member
    exact Instant.notAfter_trans (keeps.updated m member) late
  lasts := Instant.notAfter_trans keeps.lasts late

namespace Operation

def reading? : Operation → Option Instant
  | append _ now | appendFromOperator _ _ now | mergeVariables _ now | transfer _ _ now | pickup _ _ now
  | close _ _ now => some now
  | setPending _ => none

theorem updatedAt_outcome (op : Operation) (s : Session) :
    (op.outcome s).updatedAt = op.reading?.getD s.updatedAt := by
  cases op <;> rfl

theorem keepsTime_outcome {op : Operation} (keeps : s.KeepsTime)
    (late : ∀ now ∈ op.reading?, s.updatedAt.notAfter now) : (op.outcome s).KeepsTime := by
  cases op with
  | append post now => exact keeps.say (late now rfl)
  | appendFromOperator operator text now => exact keeps.say (late now rfl)
  | mergeVariables patch now => exact keeps.of_same rfl rfl (late now rfl)
  | setPending node => exact keeps.of_same rfl rfl s.updatedAt.notAfter_refl
  | transfer queue operator now => exact keeps.of_same rfl rfl (late now rfl)
  | pickup operator announcement now =>
    have assigned : (s.assign operator).KeepsTime := keeps.of_same rfl rfl s.updatedAt.notAfter_refl
    exact assigned.say (late now rfl)
  | close closer farewell now =>
    have said : (s.say ((Post.system farewell).stamp now)).KeepsTime := keeps.say (late now rfl)
    exact said.of_same rfl rfl now.notAfter_refl

end Operation
end Session

namespace Store

/-- The time that is read for a request, if any is. A session that is there already is found without it, and an
operation reads it before it is refused. -/
def Request.reading? (store : Store) : Request → Option Instant
  | create _ customer now => if (store.current? customer).isSome then none else some now
  | operate _ op => op.reading?

def after : Store → List Request → Store
  | store, [] => store
  | store, request :: rest => (stateAfter request.perform store).after rest

def readings : Store → List Request → List Instant
  | _, [] => []
  | store, request :: rest =>
    (request.reading? store).toList ++ (stateAfter request.perform store).readings rest

/-- Every session keeps time, and none was updated after any of these readings. -/
def KeepsTime (store : Store) (later : List Instant) : Prop :=
  ∀ s ∈ store.sessions, s.KeepsTime ∧ ∀ now ∈ later, s.updatedAt.notAfter now

variable {store : Store} {request : Request} {later : List Instant} {v : Visit} {t : Session}

theorem mem_of_record (member : t ∈ (store.record v).sessions) : t = v.session ∨ t ∈ store.sessions := by
  obtain ⟨s, known, rfl⟩ := List.mem_map.1 member
  split
  · exact .inl rfl
  · exact .inr known

theorem after_operate {s : Session} {id : SessionId} (op : Session.Operation) (found : store.find? id = some s) :
    ∃ v : Visit, (v.session = s ∨ v.session = op.outcome s) ∧
      stateAfter (Request.operate id op).perform store = store.record v := by
  have run : op.act (.start s) = guarded (op.refusal s) () (.start s) _ := op.act_eq (.start s)
  unfold stateAfter Request.perform visit
  simp only [found, run]
  cases op.refusal s with
  | some refusal => exact ⟨.start s, .inl rfl, rfl⟩
  | none => exact ⟨_, .inr rfl, rfl⟩

theorem mem_after_request (member : t ∈ (stateAfter request.perform store).sessions) :
    t ∈ store.sessions ∨
      (∃ fresh customer now, request.reading? store = some now ∧ t = .new fresh customer now) ∨
      ∃ id op s, request = .operate id op ∧ s ∈ store.sessions ∧ t = op.outcome s := by
  cases request with
  | create fresh customer now =>
    change t ∈ (store.create fresh customer now).2.sessions at member
    cases current : store.current? customer with
    | some s =>
      rw [create_of_current current] at member
      exact .inl member
    | none =>
      rw [create_of_no_current current] at member
      obtain known | new := List.mem_append.1 member
      · exact .inl known
      · exact .inr (.inl ⟨fresh, customer, now, by simp [Request.reading?, current], List.mem_singleton.1 new⟩)
  | operate id op =>
    cases found : store.find? id with
    | none =>
      rw [stateAfter, operate_of_unknown found] at member
      exact .inl member
    | some s =>
      have known : s ∈ store.sessions := (find?_eq_some found).1
      obtain ⟨v, visited, left⟩ := after_operate op found
      rw [left] at member
      obtain rfl | elsewhere := mem_of_record member
      · obtain same | gone := visited
        · exact .inl (same ▸ known)
        · exact .inr (.inr ⟨id, op, s, rfl, known, gone⟩)
      · exact .inl elsewhere

/-- What is read for a request comes after all updates, and the updates that it makes come before all later readings. -/
theorem KeepsTime.after_request (keeps : store.KeepsTime ((request.reading? store).toList ++ later))
    (forward : ((request.reading? store).toList ++ later).Pairwise Instant.notAfter) :
    (stateAfter request.perform store).KeepsTime later := by
  obtain ⟨-, -, read⟩ := List.pairwise_append.1 forward
  intro t member
  obtain known | ⟨fresh, customer, now, reads, rfl⟩ | ⟨id, op, s, rfl, known, rfl⟩ := mem_after_request member
  · obtain ⟨ordered, before⟩ := keeps t known
    exact ⟨ordered, fun now there => before now (List.mem_append_right _ there)⟩
  · refine ⟨Session.keepsTime_new fresh customer now, ?_⟩
    intro next there
    exact read now (by simp [reads]) next there
  · obtain ⟨ordered, before⟩ := keeps s known
    refine ⟨Session.Operation.keepsTime_outcome ordered ?_, ?_⟩
    · intro now reads
      exact before now (List.mem_append_left _ (Option.mem_toList.2 reads))
    · intro next there
      rw [Session.Operation.updatedAt_outcome]
      cases reads : op.reading? with
      | none => exact before next (List.mem_append_right _ there)
      | some now => exact read now (Option.mem_toList.2 reads) next there

theorem KeepsTime.after {requests : List Request} (keeps : store.KeepsTime (store.readings requests))
    (forward : (store.readings requests).Pairwise Instant.notAfter) : (store.after requests).KeepsTime [] := by
  induction requests generalizing store with
  | nil => exact keeps
  | cons request rest ih =>
    apply ih
    · exact keeps.after_request forward
    · exact (List.pairwise_append.1 forward).2.1

/-- After any number of requests, done or refused, under a clock that never goes back, every session keeps time. -/
theorem sessions_keep_time {requests : List Request}
    (forward : (readings .empty requests).Pairwise Instant.notAfter) :
    ∀ s ∈ (after .empty requests).sessions, s.KeepsTime := by
  have none_yet : Store.empty.KeepsTime (readings .empty requests) := List.forall_mem_nil _
  intro s member
  exact (none_yet.after forward s member).1

/-! A customer is served while the clock goes on. -/

/-- Some of these are refused: a pickup while the flow has the session, and a message after its end. The customer who
comes back in between is found without a look at the clock. -/
def sampleRequests : List Request :=
  let operate := Request.operate ⟨"chat_1"⟩
  [.create ⟨"chat_1"⟩ "ana" ⟨0, 0⟩, operate (.append (.bot "Olá!") ⟨0, 500⟩),
    operate (.pickup (.agent "rui" "Rui" []) "Rui" ⟨1, 0⟩), .create ⟨"chat_2"⟩ "ana" ⟨0, 0⟩,
    operate (.mergeVariables (.ofList [("nome", "Ana")]) ⟨2, 0⟩), operate (.close .flow "Até logo!" ⟨3, 0⟩),
    operate (.append (.user "Obrigada") ⟨4, 0⟩)]

theorem sampleRequests_keep_time :
    (readings .empty sampleRequests).Pairwise Instant.notAfter ∧
      (∀ s ∈ (after .empty sampleRequests).sessions, s.KeepsTime) ∧
      (after .empty sampleRequests).sessions.map (fun s => (s.createdAt, s.messages.map Message.timestamp, s.updatedAt)) =
        [(⟨0, 0⟩, [⟨0, 500⟩, ⟨3, 0⟩], ⟨3, 0⟩)] := by
  have forward : (readings .empty sampleRequests).Pairwise Instant.notAfter := by decide +kernel
  exact ⟨forward, sessions_keep_time forward, by decide +kernel⟩

end Store
end Switchboard
