import NbReq.Dns.Origins

/-!
# What the cache serves

Every run of the thread is a run of the cache as a stamped store (`Origin.advances`). What a public lookup in mode
`Use` is served for a name and a family is therefore not older than an exchange for them that completed before, as long
as that exchange was stored under the name (`Reached.served_recent`).

An answer that is not stored leaves what the cache had: one with a TTL of zero, a negative one without a TTL, and one
that came over an alias. `an_old_answer_is_served` is such a run.
-/

namespace NbReq.Dns

theorem Reached.recent {env : Env} {thread : Thread} (reached : Reached (Thread.Step env) thread) :
    Stamps.Recent (thread.resolver.stamps env) := by
  obtain ⟨config, current, nextConfigRefresh, -, steps⟩ := reached
  induction steps with
  | refl => exact ⟨fun _ _ _ => nofun, fun _ _ => nofun, .nil⟩
  | tail _ step ih =>
    obtain ⟨event, step⟩ := step
    exact ih.run (Thread.stepped step).origin.advances

/-- The name `h.t`. -/
def sampleName : Name := ⟨[ascii "h", ascii "t"]⟩

def sampleIpv4 (key : Nat) (cacheMode : CacheMode) : Command :=
  .publicResolve ⟨key⟩ { sampleLookup with family := .ipv4, cacheMode }

def sampleExchange (command : Command) (answer : Bytes) : List Event :=
  [.wake false sampleRefresh, .command command, .drained sampleRefresh,
    .timers [7] (fun _ => ⟨sampleSockets, .sent 21⟩) sampleRefresh, .polled [⟨socketToken, true, false⟩],
    .datagram answer sampleStream, .blocked]

def sampleUncached : Bytes :=
  [0, 7, 0x81, 0x80, 0, 1, 0, 1, 0, 0, 0, 0, 1, 0x68, 1, 0x74, 0, 0, 1, 0, 1, 0xC0, 12, 0, 1, 0, 1, 0, 0, 0, 0, 0, 4,
    1, 2, 3, 5]

/-- After an exchange for a name and a family that was stored under the name, no public lookup in mode `Use` is served
an older entry for them. -/
theorem Reached.served_recent {env : Env} {thread : Thread} {name : Name} {recordType : RecordType}
    {time stored : Instant} {before after : List CacheEvent} (reached : Reached (Thread.Step env) thread)
    (served : thread.resolver.cacheEvents = before ++ .served name recordType stored false :: after)
    (exchanged : .exchanged name recordType time true ∈ before) : time ≤ stored := by
  have split : (thread.resolver.stamps env).history =
      before.map (·.note) ++ .read (name, recordType) stored true :: after.map (·.note) := by
    show thread.resolver.cacheEvents.map _ = _
    rw [served, List.map_append]
    rfl
  exact reached.recent.reads_recent split (List.mem_map_of_mem exchanged)

theorem served_recent_again : ∃ thread time stored, Reached (Thread.Step sampleEnv) thread ∧
    thread.resolver.cacheEvents = [.exchanged sampleName .a time true, .served sampleName .a stored false] ∧
    time ≤ stored := by
  obtain ⟨thread, reached, events⟩ := sample_reached (Event.turn sampleEnv)
    (sampleExchange (sampleIpv4 1 .use) sampleAnswer ++ [.wake false sampleRefresh, .command (sampleIpv4 2 .use)])
    (fun thread => thread.resolver.cacheEvents =
      [.exchanged sampleName .a 5 true] ++ .served sampleName .a 5 false :: []) (by decide +kernel)
  exact ⟨thread, 5, 5, reached, events, reached.served_recent events List.mem_cons_self⟩

/-- A refresh whose answer has a TTL of zero leaves the entry that it should replace, and the next lookup is served
that. -/
theorem an_old_answer_is_served : ∃ thread old new, Reached (Thread.Step sampleEnv) thread ∧
    thread.resolver.cacheEvents =
      [.exchanged sampleName .a old true, .exchanged sampleName .a new false, .served sampleName .a old false] ∧
    old < new := by
  obtain ⟨thread, reached, events⟩ := sample_reached (Event.turn sampleEnv)
    (sampleExchange (sampleIpv4 1 .use) sampleAnswer ++ sampleExchange (sampleIpv4 2 .refresh) sampleUncached ++
      [.wake false sampleRefresh, .command (sampleIpv4 3 .use)])
    (fun thread => thread.resolver.cacheEvents =
      [.exchanged sampleName .a 5 true, .exchanged sampleName .a 11 false, .served sampleName .a 5 false])
    (by decide +kernel)
  exact ⟨thread, 5, 11, reached, events, by decide⟩

end NbReq.Dns
