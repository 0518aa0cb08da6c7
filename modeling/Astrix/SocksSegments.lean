import Astrix.Socks5
import Mathlib.Data.List.Induction

/-!
# Segments of a SOCKS client's stream

How far the handling of a stream depends on where it is cut. Until a handler
accepts a message, two segments are as good as one. Once it accepts one, what
stands behind the message in the segment is dropped, so a stream in which
another handler would answer something behind an accepted negotiation comes out
differently when it arrives in one piece.
-/

namespace Astrix

open PyRuntime Socks5Protocol

set_option autoImplicit false

/-- What the client, the pool and the tunnel see of a connection. -/
def Socks5Protocol.outcome (p : Socks5Protocol) :
    SocksState × Bytes × List (Text × Nat) × Bytes :=
  (p.state, p.written, p.created, p.tunnelled.flatten)

/-- However the stream is cut, it comes out the same. -/
def SegmentationIndependent (config : SocksConfig) (stream : Bytes) : Prop :=
  ∀ one other : List Bytes, one.flatten = stream → other.flatten = stream →
    (receive config one).outcome = (receive config other).outcome

/-- Nothing that follows an accepted negotiation would be answered. -/
def NothingPipelined (config : SocksConfig) (stream : Bytes) : Prop :=
  ∀ front rest, stream = front ++ rest → ∀ reply next,
    handleHandshake config front = .advance reply next → verdictIn config rest next = .incomplete

/-- The decision takes the connection to its next state. -/
def Verdict.accepts : Verdict → Bool
  | .advance _ _ | .connect _ _ => true
  | _ => false

section Merge

variable {config : SocksConfig} {p : Socks5Protocol}

/-- While nothing is accepted, two segments are as good as one. -/
theorem data_received_merge (unestablished : p.state ≠ .established) {data : Bytes}
    (waits : (verdictIn config (p.buffer ++ data) p.state).accepts = false) (more : Bytes) :
    dataReceived config (dataReceived config p data) more =
      dataReceived config p (data ++ more) := by
  rw [data_received_open unestablished data, data_received_open unestablished (data ++ more),
    ← List.append_assoc]
  cases verdict : verdictIn config (p.buffer ++ data) p.state with
  | incomplete =>
      exact @data_received_open config { p with buffer := p.buffer ++ data } unestablished more
  | reject reply =>
      have again : verdictIn config (p.buffer ++ data ++ more) p.state = .reject reply := by
        rw [verdict_stable (by rw [verdict]; simp), verdict]
      have kept : (({ p with buffer := p.buffer ++ data }).follow config (.reject reply)).state =
          p.state ∧
          (({ p with buffer := p.buffer ++ data }).follow config (.reject reply)).buffer =
            p.buffer ++ data := by
        simp only [follow, Socks5Protocol.write]
        split_ifs <;> exact ⟨rfl, rfl⟩
      rw [data_received_open (by rw [kept.1]; exact unestablished), kept.1, kept.2, again]
      simp only [follow, Socks5Protocol.write]
      split_ifs <;> rfl
  | advance reply next | connect host port =>
      rw [verdict] at waits
      cases waits

theorem waits_before {data more : Bytes}
    (waits : (verdictIn config (data ++ more) p.state).accepts = false) :
    (verdictIn config data p.state).accepts = false := by
  by_cases undecided : verdictIn config data p.state = .incomplete
  · rw [undecided]
    rfl
  · rw [verdict_stable undecided] at waits
    exact waits

end Merge

section Negotiation

variable {config : SocksConfig}

/-- Before the negotiation is accepted, all that came is one segment. -/
theorem receive_waiting (segments : List Bytes)
    (waits : (handleHandshake config segments.flatten).accepts = false) :
    receive config segments = dataReceived config new segments.flatten := by
  induction segments using List.reverseRecOn with
  | nil => rfl
  | append_singleton segments segment ih =>
      have whole : (segments ++ [segment]).flatten = segments.flatten ++ segment := by simp
      rw [whole] at waits ⊢
      have before : (verdictIn config (new.buffer ++ segments.flatten) new.state).accepts =
        false := @waits_before config new _ _ waits
      have open_ : new.state ≠ .established := by simp [new]
      rw [receive, List.foldl_append, ← receive, ih before]
      exact data_received_merge open_ before segment

/-- The connection after an accepted negotiation, with a part of what followed. -/
def negotiated (reply : Bytes) (next : SocksState) (rest : Bytes) : Socks5Protocol :=
  { new with
    state := next
    buffer := rest
    written := reply }

theorem reject_replies {state : SocksState} {buf reply : Bytes}
    (rejected : verdictIn config buf state = .reject reply) : reply ≠ [] := by
  cases state with
  | handshake =>
      simp only [verdictIn, handleHandshake] at rejected
      split_ifs at rejected <;> cases rejected <;> exact List.cons_ne_nil _ _
  | auth =>
      simp only [verdictIn, handleAuth] at rejected
      split_ifs at rejected <;> cases rejected <;> exact List.cons_ne_nil _ _
  | command =>
      simp only [verdictIn, handleCommand] at rejected
      split_ifs at rejected
      · cases rejected
        exact List.cons_ne_nil _ _
      · split at rejected
        · cases rejected
        · split_ifs at rejected
  | established => cases rejected

theorem advance_replies {state next : SocksState} {buf reply : Bytes}
    (accepted : verdictIn config buf state = .advance reply next) : reply ≠ [] := by
  cases state with
  | handshake =>
      simp only [verdictIn, handleHandshake] at accepted
      split_ifs at accepted <;> cases accepted <;> exact List.cons_ne_nil _ _
  | auth =>
      simp only [verdictIn, handleAuth] at accepted
      split_ifs at accepted
      cases accepted
      exact List.cons_ne_nil _ _
  | command =>
      simp only [verdictIn, handleCommand] at accepted
      split_ifs at accepted
      split at accepted
      · cases accepted
      · split_ifs at accepted
  | established => cases accepted

theorem handshake_never_connects {buf : Bytes} (host : Text) (port : Nat) :
    handleHandshake config buf ≠ .connect host port := by
  simp only [handleHandshake]
  split_ifs <;> simp

theorem NothingPipelined.of_append {stream more : Bytes}
    (nothing : NothingPipelined config (stream ++ more)) : NothingPipelined config stream := by
  rintro front rest rfl reply next accepted
  have answered := nothing front (rest ++ more) (List.append_assoc _ _ _) reply next accepted
  by_contra decided
  exact decided ((verdict_stable decided more).symm.trans answered)

/-- With nothing pipelined, the connection stays as the negotiation left it. -/
theorem receive_negotiated {reply : Bytes} {next : SocksState} (segments : List Bytes)
    (nothing : NothingPipelined config segments.flatten)
    (accepted : handleHandshake config segments.flatten = .advance reply next) :
    ∃ front rest, segments.flatten = front ++ rest ∧
      handleHandshake config front = .advance reply next ∧
        receive config segments = negotiated reply next rest := by
  have unestablished : next ≠ .established := by
    rw [handshake_advances accepted]
    split_ifs <;> simp
  induction segments using List.reverseRecOn with
  | nil => cases accepted
  | append_singleton segments segment ih =>
      have whole : (segments ++ [segment]).flatten = segments.flatten ++ segment := by simp
      rw [whole] at nothing accepted ⊢
      have split : receive config (segments ++ [segment]) =
          dataReceived config (receive config segments) segment := by
        rw [receive, List.foldl_append]
        rfl
      by_cases waits : (handleHandshake config segments.flatten).accepts = false
      · refine ⟨segments.flatten ++ segment, [], (List.append_nil _).symm, accepted, ?_⟩
        have open_ : new.state ≠ .established := by simp [new]
        have merged := @data_received_merge config new open_ segments.flatten waits segment
        rw [split, receive_waiting segments waits, merged, data_received_open open_]
        have verdict : verdictIn config (new.buffer ++ (segments.flatten ++ segment)) new.state =
          .advance reply next := accepted
        rw [verdict]
        rfl
      · have decided : verdictIn config segments.flatten .handshake ≠ .incomplete := by
          intro undecided
          have undecided : handleHandshake config segments.flatten = .incomplete := undecided
          rw [undecided] at waits
          exact waits rfl
        have before : handleHandshake config segments.flatten = .advance reply next :=
          (verdict_stable decided segment).symm.trans accepted
        obtain ⟨front, rest, parts, fronted, same⟩ := ih nothing.of_append before
        refine ⟨front, rest ++ segment, by rw [parts, List.append_assoc], fronted, ?_⟩
        have silent : verdictIn config (rest ++ segment) next = .incomplete :=
          nothing front (rest ++ segment) (by rw [parts, List.append_assoc]) reply next fronted
        have open_ : (negotiated reply next rest).state ≠ .established := unestablished
        rw [split, same, data_received_open open_]
        have verdict : verdictIn config ((negotiated reply next rest).buffer ++ segment)
          (negotiated reply next rest).state = .incomplete := silent
        rw [verdict]
        rfl

/-- An answered rest shows: the handler writes or leaves its state. -/
theorem answered_shows {reply rest : Bytes} {next : SocksState}
    (unestablished : next ≠ .established)
    (answered : verdictIn config rest next ≠ .incomplete) :
    (dataReceived config (negotiated reply next []) rest).outcome ≠
      (negotiated reply next []).outcome := by
  rw [@data_received_open config (negotiated reply next []) unestablished rest]
  intro same
  have state := congrArg (fun outcome => outcome.1) same
  have written := congrArg (fun outcome => outcome.2.1) same
  cases verdict : verdictIn config ((negotiated reply next []).buffer ++ rest)
      (negotiated reply next []).state with
  | incomplete => exact answered verdict
  | reject answer =>
      rw [verdict] at written
      have appended : reply ++ answer = reply := written
      have empty : answer = [] := by simpa using appended
      exact reject_replies verdict empty
  | advance answer later =>
      rw [verdict] at written
      have appended : reply ++ answer = reply := written
      have empty : answer = [] := by simpa using appended
      exact advance_replies verdict empty
  | connect host port =>
      rw [verdict] at state
      exact unestablished state.symm

end Negotiation

/-- The outcome is independent of the cutting exactly when nothing is pipelined
behind an accepted negotiation. -/
theorem segmentation_independent_iff (config : SocksConfig) (stream : Bytes) :
    SegmentationIndependent config stream ↔ NothingPipelined config stream := by
  constructor
  · rintro independent front rest rfl reply next accepted
    by_contra answered
    have unestablished : next ≠ .established := by
      rw [handshake_advances accepted]
      split_ifs <;> simp
    have whole : handleHandshake config (front ++ rest) = .advance reply next := by
      have decided : verdictIn config front .handshake ≠ .incomplete := by
        intro undecided
        have undecided : handleHandshake config front = .incomplete := undecided
        rw [undecided] at accepted
        cases accepted
      exact (verdict_stable decided rest).trans accepted
    have first : ∀ data, handleHandshake config data = .advance reply next →
        dataReceived config new data = negotiated reply next [] := by
      intro data advances
      have open_ : new.state ≠ .established := by simp [new]
      have verdict : verdictIn config (new.buffer ++ data) new.state = .advance reply next :=
        advances
      rw [data_received_open open_, verdict]
      rfl
    have same := independent [front, rest] [front ++ rest] (by simp) (by simp)
    have cut : receive config [front, rest] =
        dataReceived config (dataReceived config new front) rest := rfl
    have uncut : receive config [front ++ rest] = dataReceived config new (front ++ rest) := rfl
    rw [cut, uncut, first front accepted, first (front ++ rest) whole] at same
    exact answered_shows unestablished answered same
  · intro nothing one other oneStream otherStream
    cases verdict : handleHandshake config stream with
    | advance reply next =>
        have comes : ∀ segments : List Bytes, segments.flatten = stream →
            (receive config segments).outcome = (negotiated reply next []).outcome := by
          rintro segments rfl
          obtain ⟨_, rest, _, _, same⟩ := receive_negotiated segments nothing verdict
          rw [same]
          rfl
        rw [comes one oneStream, comes other otherStream]
    | connect host port => exact absurd verdict (handshake_never_connects host port)
    | incomplete | reject reply =>
        have comes : ∀ segments : List Bytes, segments.flatten = stream →
            receive config segments = dataReceived config new stream := by
          rintro segments rfl
          exact receive_waiting segments (by rw [verdict]; rfl)
        rw [comes one oneStream, comes other otherStream]

/-- A client that sends its request along with the negotiation. -/
def pipelinedRequest : Bytes := [5, 1, 0] ++ [5, 1, 0, 1, 127, 0, 0, 1, 0, 80]

def openConfig : SocksConfig where
  authRequired := false
  users _ := none
  sockname := .unknown

theorem pipelined_request_depends : ¬ SegmentationIndependent openConfig pipelinedRequest := by
  intro independent
  have same := independent [pipelinedRequest] [[5, 1, 0], [5, 1, 0, 1, 127, 0, 0, 1, 0, 80]]
    rfl rfl
  revert same
  decide +kernel

/-- What a client sends that waits for the reply to each of its messages: no
segment goes on behind a message that is accepted. -/
def WaitsForReplies (config : SocksConfig) : Socks5Protocol → List Bytes → Prop
  | _, [] => True
  | p, segment :: rest =>
      segment ≠ [] ∧
      (p.state ≠ .established → ∀ front more, segment = front ++ more → more ≠ [] →
        (verdictIn config (p.buffer ++ front) p.state).accepts = false) ∧
      WaitsForReplies config (dataReceived config p segment) rest

section Waiting

variable {config : SocksConfig} {p q : Socks5Protocol}

/-- The same connection, its tunnelled bytes in other chunks. -/
def SameButChunks (p q : Socks5Protocol) : Prop :=
  ∃ chunks, q = { p with tunnelled := chunks } ∧ chunks.flatten = p.tunnelled.flatten

theorem SameButChunks.refl (p : Socks5Protocol) : SameButChunks p p := ⟨p.tunnelled, rfl, rfl⟩

theorem SameButChunks.trans {later : Socks5Protocol} (one : SameButChunks p q)
    (two : SameButChunks q later) : SameButChunks p later := by
  obtain ⟨chunks, rfl, same⟩ := one
  obtain ⟨others, rfl, again⟩ := two
  exact ⟨others, rfl, again.trans same⟩

theorem SameButChunks.outcome (same : SameButChunks p q) : p.outcome = q.outcome := by
  obtain ⟨chunks, rfl, flat⟩ := same
  simp only [Socks5Protocol.outcome, flat]

theorem follow_chunks (chunks : List Bytes) (verdict : Verdict) :
    ({ p with tunnelled := chunks }).follow config verdict =
      { p.follow config verdict with tunnelled := chunks } := by
  cases verdict with
  | incomplete => rfl
  | reject reply | advance reply next | connect host port =>
      simp only [follow, Socks5Protocol.write]
      split_ifs <;> rfl

theorem follow_tunnelled (verdict : Verdict) :
    (p.follow config verdict).tunnelled = p.tunnelled := by
  cases verdict with
  | incomplete => rfl
  | reject reply | advance reply next | connect host port =>
      simp only [follow, Socks5Protocol.write]
      split_ifs <;> rfl

theorem SameButChunks.received (same : SameButChunks p q) (data : Bytes) :
    SameButChunks (dataReceived config p data) (dataReceived config q data) := by
  obtain ⟨chunks, rfl, flat⟩ := same
  by_cases established : p.state = .established
  · simp only [dataReceived, established, if_true, handleTunnelData]
    split_ifs
    · exact ⟨_, rfl, by simp [flat]⟩
    · exact ⟨_, rfl, flat⟩
  · have other : ({ p with tunnelled := chunks } : Socks5Protocol).state ≠ .established :=
      established
    rw [data_received_open established, data_received_open other]
    refine ⟨chunks, ?_, ?_⟩
    · exact @follow_chunks config { p with buffer := p.buffer ++ data } chunks _
    · rw [flat, follow_tunnelled]

theorem SameButChunks.received_all (same : SameButChunks p q) (segments : List Bytes) :
    SameButChunks (segments.foldl (dataReceived config) p)
      (segments.foldl (dataReceived config) q) := by
  induction segments generalizing p q with
  | nil => exact same
  | cons segment rest ih => exact ih (same.received segment)

def bytewise (data : Bytes) : List Bytes := data.map fun byte => [byte]

theorem bytewise_flatten (data : Bytes) : (bytewise data).flatten = data := by
  induction data with
  | nil => rfl
  | cons byte rest ih => exact congrArg (byte :: ·) ih

theorem established_bytewise (established : p.state = .established) (data : Bytes) :
    SameButChunks (dataReceived config p data)
      ((bytewise data).foldl (dataReceived config) p) := by
  have all : ∀ segments : List Bytes, segments.foldl (dataReceived config) p =
      { p with
        buffer := p.buffer ++ segments.flatten
        tunnelled := p.tunnelled ++
          if p.created ≠ [] ∧ !p.virtualClosed then segments else [] } := by
    intro segments
    induction segments using List.reverseRecOn with
    | nil => simp
    | append_singleton segments segment ih =>
        rw [List.foldl_append, ih]
        simp only [List.foldl_cons, List.foldl_nil, dataReceived, established, if_true,
          handleTunnelData, List.flatten_append]
        split_ifs <;> simp
  have one := all [data]
  have many := all (bytewise data)
  have flat : [data].flatten = (bytewise data).flatten := by
    rw [bytewise_flatten, List.flatten_cons, List.flatten_nil, List.append_nil]
  rw [List.foldl_cons, List.foldl_nil, flat] at one
  rw [one, many]
  refine ⟨_, rfl, ?_⟩
  by_cases active : p.created ≠ [] ∧ !p.virtualClosed
  · rw [if_pos active, if_pos active, List.flatten_append, List.flatten_append, flat]
  · rw [if_neg active, if_neg active]

theorem open_bytewise (unestablished : p.state ≠ .established) (data : Bytes)
    (nonempty : data ≠ [])
    (waits : ∀ front more, data = front ++ more → more ≠ [] →
      (verdictIn config (p.buffer ++ front) p.state).accepts = false) :
    dataReceived config p data = (bytewise data).foldl (dataReceived config) p := by
  induction data using List.reverseRecOn with
  | nil => exact absurd rfl nonempty
  | append_singleton front byte ih =>
      have split : bytewise (front ++ [byte]) = bytewise front ++ [[byte]] := by
        simp [bytewise]
      rw [split, List.foldl_append]
      by_cases first : front = []
      · rw [first]
        rfl
      · have before := ih first fun early more parts rest =>
          waits early (more ++ [byte]) (by rw [parts, List.append_assoc]) (by simp)
        rw [← before]
        exact (data_received_merge unestablished
          (waits front [byte] rfl (List.cons_ne_nil _ _)) [byte]).symm

theorem received_bytewise {segments : List Bytes} (waits : WaitsForReplies config p segments) :
    SameButChunks (segments.foldl (dataReceived config) p)
      ((bytewise segments.flatten).foldl (dataReceived config) p) := by
  induction segments generalizing p with
  | nil => exact SameButChunks.refl p
  | cons segment rest ih =>
      obtain ⟨nonempty, inside, others⟩ := waits
      have split : bytewise (segment :: rest).flatten =
          bytewise segment ++ bytewise rest.flatten := by
        simp [bytewise]
      have first : SameButChunks (dataReceived config p segment)
          ((bytewise segment).foldl (dataReceived config) p) := by
        by_cases established : p.state = .established
        · exact established_bytewise established segment
        · rw [← open_bytewise established segment nonempty (inside established)]
          exact SameButChunks.refl _
      rw [List.foldl_cons, split, List.foldl_append]
      exact (ih others).trans (first.received_all _)

/-- For a client that waits for every reply the cutting does not matter. -/
theorem waiting_client_independent {one other : List Bytes}
    (waits : WaitsForReplies config new one) (otherWaits : WaitsForReplies config new other)
    (same : one.flatten = other.flatten) :
    (receive config one).outcome = (receive config other).outcome := by
  have first := (received_bytewise waits).outcome
  have second := (received_bytewise otherWaits).outcome
  rw [same] at first
  exact first.trans second.symm

end Waiting

end Astrix
