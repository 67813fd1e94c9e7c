import WatchedStore.Job.Script
import WatchedStore.Proofs.Job.Scripts
import WatchedStore.Proofs.Session.Effects
import WatchedStore.Proofs.Store.Refill
import WatchedStore.Proofs.Wire.Frames

/-! # The stores that can come about

A store comes about from the empty one by calls, by operations and scripts of jobs and by what
sessions do, in any order, and the sessions may be in the middle of anything. Each of these acts by
calls, so what holds after every run of calls holds of every store. What is stored passed the checks
of its batch, which is why it fits the wire and the lines of an output.
-/

namespace WatchedStore

open WatchedStore.Text WatchedStore.Wire

/-- A text that can be a key or a value. -/
structure IsStorable (text : String) : Prop where
  nonempty : text.toList ≠ []
  short : text.utf8ByteSize ≤ 40
  printable : ∀ c ∈ text.toList, isControl c = false
  unreserved : ∀ c ∈ text.toList, c ∉ ['(', ')', '[', ']', ',']

theorem isStorable_of_clean {text : String} (clean : textFault? text = none) : IsStorable text where
  nonempty := by
    intro empty
    rw [textFault?, if_pos empty] at clean
    cases clean
  short := by
    rw [← length_encode]
    exact length_encode_le clean
  printable c member := (plain_of_clean clean member).1
  unreserved c member := by
    have plain := (plain_of_clean clean member).2
    intro reserved
    simp only [List.mem_cons, List.not_mem_nil, or_false] at reserved
    rcases reserved with rfl | rfl | rfl | rfl | rfl <;> cases plain

/-- A letter or a digit of ASCII. -/
def IsLetterOrDigit (c : Char) : Prop :=
  ('a' ≤ c ∧ c ≤ 'z') ∨ ('A' ≤ c ∧ c ≤ 'Z') ∨ ('0' ≤ c ∧ c ≤ '9')

/-- No other characters have a bucket. -/
theorem isLetterOrDigit_of_bucketOfChar? {c : Char} {index : BucketIndex}
    (placed : bucketOfChar? c = some index) : IsLetterOrDigit c := by
  have le_of_toNat : ∀ {a b : Char}, a.toNat ≤ b.toNat → a ≤ b := UInt32.le_iff_toNat_le.mpr
  unfold bucketOfChar? at placed
  dsimp only at placed
  split at placed
  · next lower => exact .inl ⟨le_of_toNat lower.1, le_of_toNat lower.2⟩
  · split at placed
    · next upper => exact .inr (.inl ⟨le_of_toNat upper.1, le_of_toNat upper.2⟩)
    · split at placed
      · next digit => exact .inr (.inr ⟨le_of_toNat digit.1, le_of_toNat digit.2⟩)
      · cases placed

namespace Hub

/-- The hubs that come about from an empty store in which a key may have `limit` subscribers. -/
inductive IsReachable (limit : Nat) : Hub → Prop
  | empty : IsReachable limit (.empty limit)
  /-- Somebody calls the store. -/
  | call {hub : Hub} (reached : IsReachable limit hub) (call : Call) :
    IsReachable limit (hub.call call).2
  /-- A job executes an operation, between any two of other jobs. -/
  | operation {executor : Executor} (reached : IsReachable limit executor.hub) (job : String)
      (operation : Operation) (output : Writer) :
    IsReachable limit (executor.execute job operation output).executor.hub
  /-- Jobs run from their files. -/
  | jobs {executor : Executor} (reached : IsReachable limit executor.hub) (jobs : List JobFile) :
    IsReachable limit (executor.runJobs jobs).2.hub
  /-- A script runs, whatever becomes of its output. -/
  | script {executor : Executor} (reached : IsReachable limit executor.hub) (job : String)
      (script : Bytes) (output : Writer) :
    IsReachable limit (executor.runScript job script output).executor.hub
  /-- A worker of a session or a forced disconnect takes one step. -/
  | step {shop : Session.Workshop} (reached : IsReachable limit shop.board.hub)
      (event : Session.WorkshopEvent) : IsReachable limit (shop.step event).board.hub
  /-- A client announces itself. -/
  | handshake {server : Session.Rendezvous} (reached : IsReachable limit server.hub)
      (host : Host) (source : ByteSource) :
    IsReachable limit (server.handshake host source).2.hub
  /-- A client sends something. -/
  | send {server : Session.Rendezvous} (reached : IsReachable limit server.hub)
      (handle : Session.Handle) (arrivals : List Session.Arrival) :
    IsReachable limit (server.send handle arrivals).hub
  /-- All sessions are closed. -/
  | disconnectAll {server : Session.Rendezvous} (reached : IsReachable limit server.hub) :
    IsReachable limit server.disconnectAll.hub
  /-- The server stops. -/
  | shutdown {server : Session.Rendezvous} (reached : IsReachable limit server.hub) :
    IsReachable limit server.shutdown.hub

end Hub

namespace Executor

theorem leadsTo_execute (executor : Executor) (job : String) (operation : Operation)
    (output : Writer) :
    executor.hub.LeadsTo (executor.execute job operation output).executor.hub :=
  ⟨operation.edits, (hub_execute executor job operation output).symm⟩

theorem leadsTo_runScript (executor : Executor) (job : String) (script : Bytes) (output : Writer) :
    executor.hub.LeadsTo (executor.runScript job script output).executor.hub :=
  @runLines_keeps executor (fun later => executor.hub.LeadsTo later.hub) job
    (fun later operation output _ leads => leads.trans (later.leadsTo_execute job operation output))
    (.refl _) 1 _ _ _ _

theorem leadsTo_runJob (executor : Executor) (job : JobFile) :
    executor.hub.LeadsTo (executor.runJob job).2.hub := by
  unfold runJob
  split
  · exact .refl _
  · next script _ =>
    split
    · exact .refl _
    · next files _ =>
      let opened : Executor := { executor with files := files }
      have ran : executor.hub.LeadsTo (opened.runScript job.name script .unlimited).executor.hub :=
        opened.leadsTo_runScript job.name script .unlimited
      dsimp only
      split
      · exact ran
      · exact ran

theorem leadsTo_runJobs (executor : Executor) (jobs : List JobFile) :
    executor.hub.LeadsTo (executor.runJobs jobs).2.hub := by
  induction jobs generalizing executor with
  | nil => exact .refl _
  | cons job rest ih => exact (executor.leadsTo_runJob job).trans (ih _)

end Executor

/-- Every hub that comes about is the one after some run of calls. -/
theorem Hub.IsReachable.leadsTo {limit : Nat} {hub : Hub} (reached : IsReachable limit hub) :
    (Hub.empty limit).LeadsTo hub := by
  induction reached with
  | empty => exact .refl _
  | call _ call ih => exact ih.trans (leadsTo_call _ call)
  | @operation executor _ job operation output ih =>
    exact ih.trans (executor.leadsTo_execute job operation output)
  | @jobs executor _ jobs ih => exact ih.trans (executor.leadsTo_runJobs jobs)
  | @script executor _ job script output ih =>
    exact ih.trans (executor.leadsTo_runScript job script output)
  | @step shop _ event ih => exact ih.trans (shop.leadsTo_step event)
  | @handshake server _ host source ih => exact ih.trans (server.leadsTo_handshake host source)
  | @send server _ handle arrivals ih => exact ih.trans (server.leadsTo_send handle arrivals)
  | @disconnectAll server _ ih => exact ih.trans server.leadsTo_disconnectAll
  | @shutdown server _ ih => exact ih.trans server.leadsTo_shutdown

/-- What erasing takes out of a bucket is the node that is found there, and no other node has its
key. -/
theorem Bucket.Sound.erase_eq {limit : Nat} {index : BucketIndex} {bucket : Bucket}
    (sound : bucket.Sound limit index) {key : String} {node : Node}
    (found : bucket.find? key = some node) :
    ∃ before later, bucket = before ++ node :: later ∧ bucket.erase key = before ++ later ∧
      ∀ other ∈ before ++ later, other.key ≠ key := by
  obtain ⟨hit, before, later, split, earlier⟩ := List.find?_eq_some_iff_append.mp found
  have same : node.key = key := by simpa using hit
  have apart : ∀ other ∈ before, other.key ≠ key := fun other member => by
    simpa using earlier other member
  refine ⟨before, later, split, ?_, ?_⟩
  · have passed : ∀ other ∈ before, ¬ decide (other.key = key) = true := fun other member => by
      simpa using apart other member
    rw [split, Bucket.erase, List.eraseP_append_right _ passed,
      List.eraseP_cons_of_pos (by simpa using same)]
  · intro other member
    rcases List.mem_append.mp member with inBefore | inLater
    · exact apart other inBefore
    · have distinct := sound.distinct
      rw [split, List.map_append, List.map_cons, List.nodup_append] at distinct
      intro again
      exact (List.nodup_cons.mp distinct.2.1).1 (same ▸ again ▸ List.mem_map_of_mem inLater)

/-- In a sound set every identity leads to its member. -/
theorem Subscribers.Sound.find?_member {limit : Nat} {subscribers : Subscribers}
    (sound : subscribers.Sound limit) {member : Sink} (present : member ∈ subscribers.members) :
    subscribers.members.find? (fun other => other.id = member.id) = some member := by
  cases found : subscribers.members.find? (fun other => other.id = member.id) with
  | none => exact absurd (decide_eq_true rfl) (List.find?_eq_none.mp found member present)
  | some other =>
    have same : other.id = member.id := by simpa using List.find?_some found
    rw [List.inj_on_of_nodup_map sound.nodup_ids (List.mem_of_find?_eq_some found) present same]

section Lines

/-- Bytes without the ends of lines are a line when one follows. -/
theorem lines_append_lineFeed {bytes : Bytes} (whole : lineFeed ∉ bytes)
    (plain : carriageReturn ∉ bytes) (rest : Bytes) :
    lines (bytes ++ lineFeed :: rest) = bytes :: lines rest := by
  induction bytes with
  | nil => exact lines_lineFeed rest
  | cons byte others ih =>
    obtain ⟨noFeed, wholeRest⟩ := not_or.mp (List.mem_cons.not.mp whole)
    obtain ⟨noReturn, plainRest⟩ := not_or.mp (List.mem_cons.not.mp plain)
    rw [List.cons_append, lines, if_neg (Ne.symm noFeed),
      if_neg fun both => noReturn both.1.symm, ih wholeRest plainRest]

/-- Storable texts take one line of a listing for each pair. -/
theorem lines_listing {pairs : List (String × String)}
    (storable : ∀ pair ∈ pairs, IsStorable pair.1 ∧ IsStorable pair.2) :
    lines (encode (Report.listing pairs)) =
      pairs.map fun pair => encode ("(" ++ pair.1 ++ ", " ++ pair.2 ++ ")") := by
  induction pairs with
  | nil => rfl
  | cons pair rest ih =>
    obtain ⟨key, value⟩ := storable pair List.mem_cons_self
    have clear : ∀ byte : UInt8, byte.toNat < 32 →
        byte ∉ encode ("(" ++ pair.1 ++ ", " ++ pair.2 ++ ")") := by
      intro byte low member
      obtain ⟨c, inText, number⟩ := (mem_encode_iff (by omega)).mp member
      have control : isControl c = true := by simp [isControl, number, low]
      have printable : isControl c = false := by
        simp only [String.toList_append, List.mem_append] at inText
        rcases inText with (((bracket | inKey) | comma) | inValue) | bracket
        · rw [List.mem_singleton.mp bracket]
          decide
        · exact key.printable c inKey
        · rcases List.mem_pair.mp comma with rfl | rfl <;> decide
        · exact value.printable c inValue
        · rw [List.mem_singleton.mp bracket]
          decide
      exact Bool.noConfusion (control.symm.trans printable)
    have shape : encode (Report.listing (pair :: rest)) =
        encode ("(" ++ pair.1 ++ ", " ++ pair.2 ++ ")") ++
          lineFeed :: encode (Report.listing rest) := by
      have ending : encode ")\n" = encode ")" ++ [lineFeed] := by decide +kernel
      simp only [Report.listing, List.map_cons, String.join_cons, Report.line, encode_append,
        List.append_assoc, ending, List.singleton_append]
    rw [shape, lines_append_lineFeed (clear _ (by decide)) (clear _ (by decide)), List.map_cons,
      ih fun other member => storable other (List.mem_cons_of_mem _ member)]

end Lines

/-- What holds of a store at any time. -/
structure Store.IsWellKept (limit : Nat) (store : Store) : Prop where
  limited : store.limit = limit
  /-- Every node stands in the bucket of its key. -/
  placed : ∀ index, ∀ node ∈ store.bucket index, bucketOf? node.key = some index
  /-- No two nodes have one key, in whichever buckets they stand. -/
  distinct : (store.nodes.map Node.key).Nodup
  storable : ∀ node ∈ store.nodes, IsStorable node.key ∧ IsStorable node.value
  starts : ∀ node ∈ store.nodes, ∃ c, node.key.toList.head? = some c ∧ IsLetterOrDigit c
  bounded : ∀ node ∈ store.nodes,
    node.subscribers.limit = limit ∧ node.subscribers.members.length ≤ limit
  /-- The identities of the members strictly ascend, so each leads to its member. -/
  filed : ∀ node ∈ store.nodes, node.subscribers.ids.Pairwise (· < ·) ∧
    ∀ member ∈ node.subscribers.members,
      node.subscribers.members.find? (fun other => other.id = member.id) = some member
  /-- Whoever looks a stored key up in its bucket finds its node. -/
  found : ∀ node ∈ store.nodes, ∃ index, bucketOf? node.key = some index ∧
    (store.bucket index).find? node.key = some node
  /-- What is taken out of a bucket is the node that was found, and its key is gone then. -/
  unlinked : ∀ key index node, store.locate? key = some (index, node) →
    ∃ before later, store.bucket index = before ++ node :: later ∧
      (store.bucket index).erase key = before ++ later ∧
      ∀ other ∈ before ++ later, other.key ≠ key
  sendable : ∀ node ∈ store.nodes, IsSendable node.key ∧ IsSendable node.value
  /-- Shown, every pair takes one line. -/
  listed : lines (encode (Report.listing store.snapshot)) =
    store.snapshot.map fun pair => encode ("(" ++ pair.1 ++ ", " ++ pair.2 ++ ")")

namespace Store

variable {store : Store}

theorem Sound.bucketOf?_key (sound : store.Sound) {node : Node} (member : node ∈ store.nodes) :
    ∃ index, bucketOf? node.key = some index ∧ (store.bucket index).find? node.key = some node := by
  have leads := sound.mem_nodes_iff.mp member
  rw [node?_eq_bind] at leads
  exact Option.bind_eq_some_iff.mp leads

/-- A sound store all of whose pairs passed the checks is well kept. -/
theorem Sound.isWellKept (sound : store.Sound)
    (good : ∀ pair ∈ store.snapshot, pairFault? pair.1 pair.2 = none) :
    store.IsWellKept store.limit := by
  have clean : ∀ node ∈ store.nodes, textFault? node.key = none ∧ textFault? node.value = none :=
    fun node member => textFaults_of_pairFault? (good _ (List.mem_map_of_mem member))
  have storable : ∀ node ∈ store.nodes, IsStorable node.key ∧ IsStorable node.value :=
    fun node member =>
      ⟨isStorable_of_clean (clean node member).1, isStorable_of_clean (clean node member).2⟩
  have limited : ∀ node ∈ store.nodes, node.subscribers.Sound store.limit :=
    fun node member => (sound.of_node? (sound.mem_nodes_iff.mp member)).2
  constructor
  case limited => rfl
  case placed => exact fun index => (sound index).placed
  case distinct => exact sound.nodup_keys
  case storable => exact storable
  case starts =>
    intro node member
    obtain ⟨index, placed, -⟩ := sound.bucketOf?_key member
    obtain ⟨c, first, filed⟩ := Option.bind_eq_some_iff.mp placed
    exact ⟨c, first, isLetterOrDigit_of_bucketOfChar? filed⟩
  case bounded =>
    exact fun node member => ⟨(limited node member).limited, (limited node member).within⟩
  case filed =>
    exact fun node member => ⟨List.pairwise_map.mpr (limited node member).ascending,
      fun _ present => (limited node member).find?_member present⟩
  case found => exact fun node member => sound.bucketOf?_key member
  case unlinked =>
    intro key index node located
    obtain ⟨placed, leads⟩ := locate?_eq_some_iff.mp located
    rw [node?_of_placed placed] at leads
    exact (sound index).erase_eq leads
  case sendable =>
    exact fun node member =>
      ⟨isSendable_of_clean (clean node member).1, isSendable_of_clean (clean node member).2⟩
  case listed =>
    refine lines_listing fun pair member => ?_
    obtain ⟨node, present, rfl⟩ := List.mem_map.mp member
    exact storable node present

end Store

/-- A store that comes about in whatever way is well kept. -/
theorem Hub.isWellKept_of_isReachable {limit : Nat} {hub : Hub} (reached : IsReachable limit hub) :
    hub.store.IsWellKept limit := by
  obtain ⟨calls, rfl⟩ := reached.leadsTo
  have sound : ((Hub.empty limit).after calls).store.Sound :=
    sound_after (Store.sound_empty limit) calls
  have kept : ((Hub.empty limit).after calls).store.limit = limit := limit_after _ calls
  have good : ∀ pair ∈ ((Hub.empty limit).after calls).store.snapshot,
      pairFault? pair.1 pair.2 = none := by
    intro pair member
    obtain ⟨pairs, -, passed⟩ := mem_snapshot_after limit calls member
    exact (mem_goodPairs_iff.mp passed).2
  have whole := sound.isWellKept good
  rwa [kept] at whole

/-- A batch with a pair refused, a script over the same buckets and the request of a session. -/
theorem Hub.isWellKept_of_request_after_script :
    let written := ((Hub.empty 1).call (.write [("b", "1"), ("_", "x"), ("B", "2")])).2
    let executor : Executor :=
      ⟨.standard, written, ⟨Path.ofText "./jobs", 2, 0, 0, [], []⟩, .file, FileTree.empty⟩
    let script := encode "DELETE [b, b]\nWRITE [(a, x y)(a,z)]"
    let ran := (executor.runScript "job" script .unlimited).executor.hub
    let board := ((Session.Switchboard.ofHub ran).add 1 4).2
    let shop : Session.Workshop := ⟨board, fun _ => .holding (.subscribe "a"), [], []⟩
    let hub := (shop.step (.work 0 false)).board.hub
    hub.store.snapshot = [("a", "z"), ("B", "2")] ∧ hub.store.subscriberCount "a" = 1 ∧
      hub.store.IsWellKept 1 := by
  intro written executor script ran board shop hub
  have first : IsReachable 1 executor.hub := .call .empty _
  have second : IsReachable 1 ran := .script first "job" script .unlimited
  have third : IsReachable 1 shop.board.hub := .call second (.openMailbox 4)
  have reached : IsReachable 1 hub := .step third (.work 0 false)
  refine ⟨by decide +kernel, by decide +kernel, ?_⟩
  exact isWellKept_of_isReachable reached

end WatchedStore
