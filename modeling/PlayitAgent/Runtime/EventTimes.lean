import PlayitAgent.Runtime.Convergence

/-!
# When an event was published

The receiver of a connection is created when the client connects, but events are taken from it only
once the client has subscribed. So what follows the answer to a subscribe request can have been
published long before the request, and the snapshot in the answer can be newer. To say so, a feed is
watched by a clock that counts its steps: it notes when each value is written to the cache, when
each event is sent, and what the answer to a request has read.
-/

namespace PlayitAgent

/-- An event in the queue of a connection: when it was sent, and when its value was written. -/
structure Stamp where
  update : ServiceUpdate
  sent : ℕ
  written : ℕ

/-- What the next read of an answer reads. The first read of the status is replaced by the
second one. -/
def Answering.reads : Answering → Option Kind
  | .readLifecycle _ => some .lifecycle
  | .readStats _ _ => some .stats
  | .readStatusAgain _ => some .status
  | _ => none

/-- What an answer has still to read. -/
def Answering.unread : Answering → Kind → Bool
  | .idle, _ => false
  | .readStatus, _ => true
  | .readLifecycle _, _ => true
  | .readStats _ _, kind => kind ≠ .lifecycle
  | .readStatusAgain _, kind => kind = .status
  | .respond _, _ => false

/-- A feed that is watched. -/
structure TimedFeed where
  feed : Feed
  /-- The number of steps so far. -/
  time : ℕ
  /-- When the value in the cache was written. -/
  cacheAt : Kind → ℕ
  /-- When a task has last written. -/
  wroteAt : Publisher → Kind → ℕ
  /-- The events in the queue of the connection. -/
  stamps : List Stamp
  /-- When the server began to handle the last subscribe request. -/
  beganAt : ℕ
  /-- When the values were written that the answer to it has read. -/
  readAt : Kind → ℕ

namespace TimedFeed

/-- At first nothing was published. -/
def start (hub : Hub) : TimedFeed where
  feed := Feed.start hub
  time := 1
  cacheAt _ := 0
  wroteAt _ _ := 0
  stamps := []
  beganAt := 0
  readAt _ := 0

/-- What is noted of a step of a publication. -/
def notePublish (s : TimedFeed) (p : Publisher) : TimedFeed :=
  match s.feed.pending p with
  | .write u :: _ =>
    { s with
      cacheAt := Function.update s.cacheAt u.kind s.time
      wroteAt := Function.update s.wroteAt p (Function.update (s.wroteAt p) u.kind s.time) }
  | .send u :: _ =>
    { s with
      stamps := if s.feed.connection.isSome then
          s.stamps ++ [⟨u, s.time, s.wroteAt p u.kind⟩]
        else s.stamps }
  | [] => s

/-- What is noted of a read for an answer. -/
def noteRead (s : TimedFeed) : TimedFeed :=
  match s.feed.connection.bind fun c => c.answering.reads with
  | some kind => { s with readAt := Function.update s.readAt kind (s.cacheAt kind) }
  | none => s

/-- What is noted of a step. -/
def note (s : TimedFeed) : Feed.Action → TimedFeed
  | .begin _ => s
  | .publish p => s.notePublish p
  | .connect => { s with stamps := [], beganAt := 0, readAt := fun _ => 0 }
  | .subscribe => { s with beganAt := s.time }
  | .read _ => s.noteRead
  | .respond => s
  | .deliver => { s with stamps := s.stamps.tail }
  | .lag dropped => { s with stamps := s.stamps.drop dropped }

/-- One step of the feed, if it is possible, and of the clock. -/
def next (server : IpcServer) (s : TimedFeed) (a : Feed.Action) : Option TimedFeed :=
  (s.feed.next server a).map fun feed => { s.note a with feed, time := s.time + 1 }

/-- The watched feed as a system that takes a step at a time. -/
def step (server : IpcServer) : TimedFeed → Feed.Action → Except Unit (TimedFeed × Unit) :=
  ofOption (next server)

/-- When the value of a kind was written that the client has from its last subscription, or that is
in the cache while it is still to be read. -/
def floor (s : TimedFeed) (c : Connection) (kind : Kind) : ℕ :=
  if c.answering.unread kind then s.cacheAt kind else s.readAt kind

/-- The condition for a step not to take a subscriber back in time.

A subscribe request is handled only when no event is in the queue. An event is sent only when its
value was not written before the one that the client has read of that kind, or, if the answer has
still to read it, the one in the cache. A value is written while an answer has still to read that
kind only when no event of that kind is in the queue. -/
def fresh (s : TimedFeed) : Feed.Action → Bool
  | .subscribe => s.feed.connection.all fun c => c.queue.isEmpty
  | .publish p =>
    s.feed.connection.all fun c =>
      match s.feed.pending p with
      | .send u :: _ => s.floor c u.kind ≤ s.wroteAt p u.kind
      | .write u :: _ => !c.answering.unread u.kind || c.queue.all fun v => v.kind ≠ u.kind
      | [] => true
  | _ => true

/-- The next event that is delivered to the client was sent after the server had begun to handle the
last subscribe request, and its value was not written before the one in the answer. -/
def Ahead (server : IpcServer) (s : TimedFeed) : Prop :=
  ∀ s', s.next server .deliver = some s' → ∃ c stamp rest,
    s.feed.connection = some c ∧ s.stamps = stamp :: rest ∧
    c.queue = stamp.update :: rest.map Stamp.update ∧
    s.beganAt ≤ stamp.sent ∧ s.readAt stamp.update.kind ≤ stamp.written

/-! ## The invariant -/

/-- The stamps are those of the queue, and none of its events would take the client back. -/
structure Current (s : TimedFeed) (c : Connection) : Prop where
  queue : s.stamps.map Stamp.update = c.queue
  sent : ∀ stamp ∈ s.stamps, s.beganAt ≤ stamp.sent
  written : ∀ stamp ∈ s.stamps, s.floor c stamp.update.kind ≤ stamp.written
  /-- The clock is ahead of the last request. -/
  time : s.beganAt ≤ s.time

variable {server : IpcServer} {s s' : TimedFeed}

/-- What is read is no longer to be read, and what is still to be read was so before. -/
theorem unread_read {cache : StateCache} {now : UInt64} {answering answering' : Answering}
    (h : Feed.read server cache now answering = some answering') (kind : Kind) :
    answering'.unread kind = (answering.unread kind && answering.reads ≠ some kind) := by
  cases answering with
  | idle => cases h
  | readStatus =>
    cases h
    rfl
  | readLifecycle shown =>
    cases h
    cases kind <;> rfl
  | readStats shown agent =>
    cases h
    cases kind <;> rfl
  | readStatusAgain snapshot =>
    cases h
    cases kind <;> rfl
  | respond snapshot => cases h

/-- A read takes what is in the cache. -/
theorem floor_read {c : Connection} {now : UInt64} {answering : Answering}
    (hc : s.feed.connection = some c)
    (h : Feed.read server s.feed.hub.cache now c.answering = some answering) (kind : Kind) :
    s.noteRead.floor { c with answering } kind = s.floor c kind := by
  unfold floor noteRead
  rw [hc, Option.bind_some]
  have hunread := unread_read h kind
  have hreads : ∀ k, c.answering.reads = some k → c.answering.unread k = true := by
    intro k hk
    cases hans : c.answering <;> rw [hans] at hk <;> cases hk <;> rfl
  cases hr : c.answering.reads with
  | none =>
    rw [hr] at hunread
    simp only [hunread, ne_eq, reduceCtorEq, not_false_eq_true, decide_true, Bool.and_true]
  | some k =>
    rw [hr] at hunread
    by_cases hk : kind = k
    · subst hk
      have htrue := hreads kind hr
      simp [hunread, htrue]
    · have hne : k ≠ kind := fun heq => hk heq.symm
      simp [hunread, hne, Function.update_of_ne hk]

/-- A value that is written, while none of its kind is in the queue or none is still to
be read. -/
theorem Current.write {c : Connection} (h : s.Current c) {p : Publisher} {u : ServiceUpdate}
    {rest : List PublishStep} (hp : s.feed.pending p = .write u :: rest)
    (hfresh : (!c.answering.unread u.kind || c.queue.all fun v => v.kind ≠ u.kind) = true)
    (feed : Feed) : Current { s.notePublish p with feed, time := s.time + 1 } c := by
  unfold notePublish
  rw [hp]
  refine ⟨h.queue, h.sent, fun stamp hstamp => ?_, Nat.le_succ_of_le h.time⟩
  have hold := h.written stamp hstamp
  unfold floor at hold ⊢
  by_cases hkind : stamp.update.kind = u.kind
  · -- An event of the kind is in the queue, so the kind is not to be read.
    have hmem : stamp.update ∈ c.queue := by
      rw [← h.queue]
      exact List.mem_map_of_mem hstamp
    have hread : c.answering.unread u.kind = false := by
      by_contra hun
      rw [Bool.not_eq_false] at hun
      rw [hun] at hfresh
      have hne := List.all_eq_true.1 hfresh stamp.update hmem
      simp [hkind] at hne
    rw [hkind, hread] at hold ⊢
    exact hold
  · simpa [Function.update_of_ne hkind] using hold

/-- An event that is sent, with a value that is not older than what the client has. -/
theorem Current.send {c : Connection} (h : s.Current c) (hc : s.feed.connection = some c)
    {p : Publisher} {u : ServiceUpdate} {rest : List PublishStep}
    (hp : s.feed.pending p = .send u :: rest) (hfresh : s.floor c u.kind ≤ s.wroteAt p u.kind)
    (feed : Feed) :
    Current { s.notePublish p with feed, time := s.time + 1 } (c.receive (.send u)) := by
  unfold notePublish
  rw [hp]
  simp only [hc, Option.isSome_some, if_true]
  refine ⟨?_, ?_, ?_, Nat.le_succ_of_le h.time⟩
  · show (s.stamps ++ [_]).map Stamp.update = c.queue ++ [u]
    rw [List.map_append, h.queue]
    rfl
  · intro stamp hstamp
    rcases List.mem_append.1 hstamp with hstamp | hstamp
    · exact h.sent stamp hstamp
    · rw [List.mem_singleton.1 hstamp]
      exact h.time
  · intro stamp hstamp
    rcases List.mem_append.1 hstamp with hstamp | hstamp
    · exact h.written stamp hstamp
    · rw [List.mem_singleton.1 hstamp]
      exact hfresh

/-- Events that are dropped. -/
theorem Current.lag {c : Connection} (h : s.Current c) (n : ℕ) (feed : Feed) :
    Current { s with stamps := s.stamps.drop n, feed, time := s.time + 1 }
      { c with queue := c.queue.drop n, lagged := true } := by
  refine ⟨?_, ?_, ?_, Nat.le_succ_of_le h.time⟩
  · show (s.stamps.drop n).map Stamp.update = c.queue.drop n
    rw [List.map_drop, h.queue]
  · exact fun stamp hstamp => h.sent stamp (List.mem_of_mem_drop hstamp)
  · exact fun stamp hstamp => h.written stamp (List.mem_of_mem_drop hstamp)

/-- A request is handled while the queue is empty. -/
theorem Current.subscribe {c : Connection} (h : s.Current c) (hempty : c.queue = [])
    (answering : Answering) (feed : Feed) :
    Current { s with beganAt := s.time, feed, time := s.time + 1 } { c with answering } := by
  have hstamps : s.stamps = [] := by
    have hq := h.queue
    rw [hempty, List.map_eq_nil_iff] at hq
    exact hq
  refine ⟨h.queue, ?_, ?_, Nat.le_succ _⟩
  · show ∀ stamp ∈ s.stamps, _
    rw [hstamps]
    simp
  · show ∀ stamp ∈ s.stamps, _
    rw [hstamps]
    simp

/-- A read for the answer. -/
theorem Current.read {c : Connection} {now : UInt64} {answering : Answering} (h : s.Current c)
    (hc : s.feed.connection = some c)
    (hread : Feed.read server s.feed.hub.cache now c.answering = some answering) (feed : Feed) :
    Current { s.noteRead with feed, time := s.time + 1 } { c with answering } := by
  have hfloor := floor_read hc hread
  -- What was noted of the queue is left alone.
  have hsame : s.noteRead.stamps = s.stamps ∧ s.noteRead.beganAt = s.beganAt := by
    unfold noteRead
    split <;> exact ⟨rfl, rfl⟩
  obtain ⟨hstamps, hbegan⟩ := hsame
  refine ⟨?_, ?_, ?_, ?_⟩
  · show s.noteRead.stamps.map Stamp.update = c.queue
    rw [hstamps]
    exact h.queue
  · show ∀ stamp ∈ s.noteRead.stamps, s.noteRead.beganAt ≤ stamp.sent
    rw [hstamps, hbegan]
    exact h.sent
  · show ∀ stamp ∈ s.noteRead.stamps,
      s.noteRead.floor { c with answering } stamp.update.kind ≤ stamp.written
    rw [hstamps]
    intro stamp hstamp
    rw [hfloor]
    exact h.written stamp hstamp
  · show s.noteRead.beganAt ≤ s.time + 1
    rw [hbegan]
    exact Nat.le_succ_of_le h.time

/-- An event is taken from the queue. -/
theorem Current.deliver {c : Connection} (h : s.Current c) {event : ServiceUpdate}
    {queue : List ServiceUpdate} (hqueue : c.queue = event :: queue)
    (view : Option SubscriptionSnapshot) (feed : Feed) :
    Current { s with stamps := s.stamps.tail, feed, time := s.time + 1 }
      { c with queue, view } := by
  have hq := h.queue
  rw [hqueue] at hq
  refine ⟨?_, ?_, ?_, Nat.le_succ_of_le h.time⟩
  · show s.stamps.tail.map Stamp.update = _
    rw [List.map_tail, hq]
    rfl
  · exact fun stamp hstamp => h.sent stamp (List.mem_of_mem_tail hstamp)
  · exact fun stamp hstamp => h.written stamp (List.mem_of_mem_tail hstamp)

/-- A step of the connection. -/
theorem Current.serve {c c' : Connection} {a : Feed.Action} (h : s.Current c)
    (hc : s.feed.connection = some c) (hfresh : s.fresh a = true)
    (hstep : Feed.stepConnection server s.feed.hub.cache c a = some c') (feed : Feed) :
    Current { s.note a with feed, time := s.time + 1 } c' := by
  cases stepConnection_cases hstep with
  | subscribe _ =>
    have hempty : c.queue = [] := by
      simpa [fresh, hc] using hfresh
    exact h.subscribe hempty _ _
  | read hread => exact h.read hc hread _
  | respond hrespond =>
    refine ⟨h.queue, h.sent, fun stamp hstamp => ?_, Nat.le_succ_of_le h.time⟩
    have hold := h.written stamp hstamp
    unfold floor at hold
    rw [hrespond] at hold
    exact hold
  | deliver _ _ hqueue => exact h.deliver hqueue _ _
  | lag dropped => exact h.lag dropped _

/-- A fresh step keeps the queue current. -/
theorem current_next {a : Feed.Action} (h : ∀ c, s.feed.connection = some c → s.Current c)
    (hfresh : s.fresh a = true) (hstep : s.next server a = some s') :
    ∀ c, s'.feed.connection = some c → s'.Current c := by
  obtain ⟨feed, hnext, rfl⟩ := Option.map_eq_some_iff.1 hstep
  intro c' hc'
  cases Feed.next_cases hnext with
  | @begin publication hp =>
    have hcur := h c' hc'
    exact ⟨hcur.queue, hcur.sent, hcur.written, Nat.le_succ_of_le hcur.time⟩
  | @publish p step rest hp =>
    obtain ⟨c, hc, rfl⟩ := Option.map_eq_some_iff.1 hc'
    have hcond : (match s.feed.pending p with
        | .send u :: _ => decide (s.floor c u.kind ≤ s.wroteAt p u.kind)
        | .write u :: _ => !c.answering.unread u.kind || c.queue.all fun v => v.kind ≠ u.kind
        | [] => true) = true := by
      simpa [fresh, hc] using hfresh
    rw [hp] at hcond
    cases step with
    | write u => exact (h c hc).write hp hcond _
    | send u => exact (h c hc).send hc hp (by simpa using hcond) _
  | connect hc =>
    cases hc'
    refine ⟨rfl, ?_, ?_, Nat.zero_le _⟩
    · rintro stamp ⟨⟩
    · rintro stamp ⟨⟩
  | @serve _ c c₁ hc hconn =>
    cases hc'
    exact (h c hc).serve hc hfresh hconn _

/-- What is delivered from a current queue is ahead of the client. -/
theorem ahead_of_current (h : ∀ c, s.feed.connection = some c → s.Current c) :
    s.Ahead server := by
  intro s' hstep
  obtain ⟨feed, hnext, -⟩ := Option.map_eq_some_iff.1 hstep
  cases Feed.next_cases hnext with
  | @serve _ c c' hc hconn =>
    have hcur := h c hc
    cases stepConnection_cases hconn with
    | deliver hidle hview hqueue =>
      have hq := hcur.queue
      rw [hqueue] at hq
      cases hstamps : s.stamps with
      | nil =>
        rw [hstamps] at hq
        cases hq
      | cons stamp rest =>
        rw [hstamps, List.map_cons] at hq
        have hmem : stamp ∈ s.stamps := by
          rw [hstamps]
          exact List.mem_cons_self
        have hwritten := hcur.written stamp hmem
        unfold floor at hwritten
        rw [hidle] at hwritten
        exact ⟨c, stamp, rest, hc, rfl, by rw [hqueue, hq], hcur.sent stamp hmem, hwritten⟩

/-- In every interleaving of the publishers and of a client that connects and subscribes at any
moment, in which every step is fresh: what is delivered to the client after the answer to a
subscribe request was sent after the server had begun to handle the request, and its value was not
written before the one of its kind in the answer. -/
theorem never_back_in_time (server : IpcServer) (hub : Hub) {trace : List (Feed.Action × Unit)}
    (hrun : Run (step server) (start hub) trace s)
    (hfresh : Along (step server) (fun s a => s.fresh a = true) (start hub) trace) :
    s.Ahead server := by
  have hcurrent : ∀ c, s.feed.connection = some c → s.Current c := by
    refine hrun.invariant_along (I := fun s => ∀ c, s.feed.connection = some c → s.Current c)
      hfresh ?_ ?_
    · rintro c ⟨⟩
    · intro s s' a o hs ha hstep
      exact current_next hs ha (ofOption_eq_ok.1 hstep)
  exact ahead_of_current hcurrent

end TimedFeed

namespace Sample

/-- Statistics with so many bytes received. -/
def stats (bytes_in : UInt64) : ConnectionStats := ⟨bytes_in, 0, 0, 0⟩

/-- The statistics are published. -/
def publishes (bytes_in : UInt64) : List Feed.Action :=
  [.begin (.stats (stats bytes_in)), .publish .stats, .publish .stats]

/-- A subscribe request is handled. -/
def handles : List Feed.Action := [.subscribe, .read 0, .read 0, .read 0, .read 0, .respond]

/-- A client connects, and subscribes only after two publications. -/
def late : List Feed.Action := [.connect] ++ publishes 1 ++ publishes 2 ++ handles

/-- A client connects and subscribes, and the publications follow. -/
def early : List Feed.Action := [.connect] ++ handles ++ publishes 1 ++ publishes 2

end Sample

namespace TimedFeed

/-- A client that subscribes some time after it has connected: the answer has the second statistics,
and the event that follows takes it back to the first. -/
theorem not_never_back_in_time :
    ∃ s s' c c' view view', takes (next Sample.server) (start ⟨.default, []⟩) Sample.late = some s ∧
      s.next Sample.server .deliver = some s' ∧ s.feed.connection = some c ∧
      s'.feed.connection = some c' ∧ c.view = some view ∧ c'.view = some view' ∧
      view.stats = Sample.stats 2 ∧ view'.stats = Sample.stats 1 ∧
      (∃ stamp rest, s.stamps = stamp :: rest ∧ stamp.sent < s.beganAt ∧
        stamp.written < s.readAt .stats) ∧
      ¬s.Ahead Sample.server := by
  obtain ⟨s, s', c, c', view, view', hs, hs', hc, hc', hview, hview', hstats, hstats', hstamp⟩ :
      ∃ s s' c c' view view',
        takes (next Sample.server) (start ⟨.default, []⟩) Sample.late = some s ∧
        s.next Sample.server .deliver = some s' ∧ s.feed.connection = some c ∧
        s'.feed.connection = some c' ∧ c.view = some view ∧ c'.view = some view' ∧
        view.stats = Sample.stats 2 ∧ view'.stats = Sample.stats 1 ∧
        ∃ stamp rest, s.stamps = stamp :: rest ∧ stamp.sent < s.beganAt ∧
          stamp.written < s.readAt .stats :=
    ⟨_, _, _, _, _, _, rfl, rfl, rfl, rfl, rfl, rfl, rfl, rfl, _, _, rfl, by decide, by decide⟩
  refine ⟨s, s', c, c', view, view', hs, hs', hc, hc', hview, hview', hstats, hstats', hstamp, ?_⟩
  obtain ⟨stamp, rest, hstamps, hsent, -⟩ := hstamp
  intro hahead
  obtain ⟨-, stamp', rest', -, hstamps', -, hsent', -⟩ := hahead s' hs'
  obtain ⟨rfl, -⟩ := List.cons.inj (hstamps.symm.trans hstamps')
  omega

/-- A client that subscribes before the publications. -/
theorem never_back_in_time_sample :
    ∃ s, takes (next Sample.server) (start ⟨.default, []⟩) Sample.early = some s ∧
      (s.next Sample.server .deliver).isSome ∧ s.Ahead Sample.server := by
  obtain ⟨s, hs, hdeliver⟩ :
      ∃ s, takes (next Sample.server) (start ⟨.default, []⟩) Sample.early = some s ∧
        (s.next Sample.server .deliver).isSome := ⟨_, rfl, rfl⟩
  have hfresh := Along.takes Run.nil along_nil hs
    (show meets (next Sample.server) fresh (start ⟨.default, []⟩) Sample.early = true by
      decide +kernel)
  exact ⟨s, hs, hdeliver, never_back_in_time Sample.server _ (Run.nil.takes hs) hfresh⟩

end TimedFeed

end PlayitAgent
