import Mathlib.Data.List.Induction
import PipelinedClient.Transport.Socket

/-! Which answers to a handshake open a transport.

A peer is offered four versions in a preamble of twenty bytes, and the first four bytes
that it sends decide. What they decide lasts until the transport is stopped; no attempt
that fails changes what is known about the stream.
-/

set_option autoImplicit false

namespace PipelinedClient

namespace Handshake

def words : List UInt8 → List UInt32
  | first :: second :: third :: fourth :: rest =>
    wordOfBytes [first, second, third, fourth] :: words rest
  | _ => []

theorem words_flatMap_bytesOfWord (versions : List UInt32) :
    words (versions.flatMap bytesOfWord) = versions := by
  induction versions with
  | nil => rfl
  | cons version rest ih =>
    have head : words (bytesOfWord version ++ rest.flatMap bytesOfWord) =
        wordOfBytes (bytesOfWord version) :: words (rest.flatMap bytesOfWord) := rfl
    rw [List.flatMap_cons, head, wordOfBytes_bytesOfWord, ih]

def answer? (incoming : Incoming) : Option UInt32 :=
  if 4 ≤ incoming.bytes.length then some (wordOfBytes (incoming.bytes.take 4)) else none

theorem agree_eq_ok_iff {versions : ProposedVersions} {answer version : UInt32} :
    agree versions answer = .ok version ↔
      answer = version ∧ version ∈ versions.toList ∧ version ≠ noVersion ∧ version ≠ http := by
  unfold agree
  split
  · rename_i none
    simp only [reduceCtorEq, false_iff]
    rintro ⟨rfl, _, known, _⟩
    exact known none
  · rename_i known
    split
    · rename_i web
      simp only [reduceCtorEq, false_iff]
      rintro ⟨rfl, _, _, notWeb⟩
      exact notWeb web
    · rename_i notWeb
      split
      · rename_i proposed
        simp only [Except.ok.injEq]
        constructor
        · rintro rfl
          exact ⟨rfl, proposed, known, notWeb⟩
        · exact And.left
      · rename_i other
        simp only [reduceCtorEq, false_iff]
        rintro ⟨rfl, proposed, _⟩
        exact other proposed

end Handshake

namespace SocketTransport

variable {φ : Type}

def verdict (versions : ProposedVersions) (incoming : Incoming) : Except Error UInt32 :=
  match Handshake.answer? incoming with
  | none =>
    .error (causedBy "Failed to read handshake" (incoming.failure.getD Incoming.shortRead))
  | some answer => (Handshake.agree versions answer).mapError Handshake.Refusal.toError

theorem verdict_eq_ok_iff {versions : ProposedVersions} {incoming : Incoming} {version : UInt32} :
    verdict versions incoming = .ok version ↔
      Handshake.answer? incoming = some version ∧ version ∈ versions.toList ∧
        version ≠ Handshake.noVersion ∧ version ≠ Handshake.http := by
  unfold verdict
  cases Handshake.answer? incoming with
  | none => simp
  | some answer =>
    have kept (judged : Except Handshake.Refusal UInt32) :
        judged.mapError Handshake.Refusal.toError = .ok version ↔ judged = .ok version := by
      cases judged <;> simp [Except.mapError]
    rw [Option.some_inj, ← Handshake.agree_eq_ok_iff]
    exact kept _

structure GoesOut (channel : Channel) : Prop where
  written : channel.writes.head?.join = none
  flushed : channel.flushes.head?.join = none

theorem goesOut_iff (versions : ProposedVersions) (channel : Channel) :
    GoesOut channel ↔ (channel.write (Handshake.request versions)).1 = none ∧
      (channel.write (Handshake.request versions)).2.flush.1 = none := by
  have something : (Handshake.request versions).isEmpty = false := rfl
  have written : (channel.write (Handshake.request versions)).1 =
      channel.writes.head?.join.map WriteFault.error := by
    simp only [Channel.write, something, Bool.false_eq_true, ↓reduceIte]
    cases channel.writes.head?.join <;> rfl
  rw [written, Channel.flush, Channel.flushes_write, Option.map_eq_none_iff]
  exact ⟨fun goesOut => ⟨goesOut.written, goesOut.flushed⟩, fun both => ⟨both.1, both.2⟩⟩

/-- All that negotiation can come to: the offer does not go out, or the answer decides. -/
inductive Negotiates (versions : ProposedVersions) (channel : Channel) :
    Except Error UInt32 → Channel → Prop where
  | unsent {failure : IoError} {after : Channel} : ¬ GoesOut channel →
      Negotiates versions channel (.error (causedBy "Failed to send handshake" failure)) after
  | answered {after : Channel} : GoesOut channel →
      after.outgoing = channel.outgoing ++ Handshake.request versions →
      Negotiates versions channel (verdict versions channel.incoming) after

theorem Negotiates.verdict {versions : ProposedVersions} {channel after : Channel}
    {outcome : Except Error UInt32} (negotiates : Negotiates versions channel outcome after)
    {version : UInt32} (agreed : outcome = .ok version) :
    verdict versions channel.incoming = .ok version := by
  cases negotiates with
  | unsent => cases agreed
  | answered => exact agreed

theorem negotiate_of_written {versions : ProposedVersions} {channel written flushed : Channel}
    (write : channel.write (Handshake.request versions) = (none, written))
    (flush : written.flush = (none, flushed)) :
    (negotiate versions channel).1 = verdict versions channel.incoming ∧
      (negotiate versions channel).2.outgoing =
        channel.outgoing ++ Handshake.request versions := by
  have incoming : flushed.incoming = channel.incoming := by
    have first := channel.incoming_write (Handshake.request versions)
    rw [write] at first
    rw [← first, ← (Prod.mk.inj flush).2]
  have outgoing : flushed.outgoing = channel.outgoing ++ Handshake.request versions := by
    rw [← Channel.outgoing_of_write write, ← (Prod.mk.inj flush).2]
  unfold negotiate verdict Handshake.answer? Incoming.readExact
  rw [write]
  simp only [flush, incoming]
  by_cases enough : 4 ≤ channel.incoming.bytes.length
  · simp only [enough, ↓reduceIte]
    cases Handshake.agree versions (Handshake.wordOfBytes (channel.incoming.bytes.take 4)) <;>
      exact ⟨rfl, outgoing⟩
  · simp only [enough, ↓reduceIte]
    exact ⟨trivial, outgoing⟩

theorem negotiate_negotiates (versions : ProposedVersions) (channel : Channel) :
    Negotiates versions channel (negotiate versions channel).1
      (negotiate versions channel).2 := by
  have goesOut := goesOut_iff versions channel
  rcases write : channel.write (Handshake.request versions) with ⟨_ | failure, written⟩
  · rw [write] at goesOut
    rcases flush : written.flush with ⟨_ | failure, flushed⟩
    · rw [flush] at goesOut
      obtain ⟨judged, outgoing⟩ := negotiate_of_written write flush
      rw [judged]
      exact .answered (goesOut.mpr ⟨rfl, rfl⟩) outgoing
    · have negotiated : negotiate versions channel =
          (.error (causedBy "Failed to send handshake" failure), flushed) := by
        simp only [negotiate, write, flush]
      rw [negotiated]
      refine .unsent fun sent => ?_
      have flushed := (goesOut.mp sent).2
      rw [flush] at flushed
      cases flushed
  · have negotiated : negotiate versions channel =
        (.error (causedBy "Failed to send handshake" failure), written) := by
      simp only [negotiate, write]
    rw [negotiated]
    refine .unsent fun sent => ?_
    have written := (goesOut.mp sent).1
    rw [write] at written
    cases written

/-! Starting. -/

structure Reaches (transport : SocketTransport φ) (channel : Channel) (network : Network) :
    Prop where
  notOpen : transport.stream = none
  dialled : transport.dial = .ok (channel, network)
  configured : transport.configure = .ok ()

inductive Begins (transport : SocketTransport φ) :
    Option Error → SocketTransport φ → Prop where
  | stays : transport.stream.isSome → Begins transport none transport
  | unmet {error : Error} : transport.stream = none → transport.dial = .error error →
      Begins transport (some error) transport
  | unset {error : Error} {channel : Channel} {network : Network} : transport.stream = none →
      transport.dial = .ok (channel, network) → transport.configure = .error error →
      Begins transport (some error)
        { transport with network := network, past := transport.past ++ [channel] }
  | refused {error : Error} {channel after : Channel} {network : Network} :
      transport.Reaches channel network →
      Negotiates transport.versions channel (.error error) after →
      Begins transport (some error)
        { transport with network := network, past := transport.past ++ [after] }
  | agreed {version : UInt32} {channel after : Channel} {network : Network} :
      transport.Reaches channel network →
      Negotiates transport.versions channel (.ok version) after →
      Begins transport none
        { transport with network := network, stream := some after, version := some version }

theorem begin_begins (transport : SocketTransport φ) :
    transport.Begins transport.begin.1 transport.begin.2 := by
  unfold SocketTransport.begin
  split
  · rename_i opened
    exact .stays opened
  · rename_i closed
    have notOpen : transport.stream = none := by simpa using closed
    split
    · rename_i error dialled
      exact .unmet notOpen dialled
    · rename_i channel network dialled
      split
      · rename_i error configured
        exact .unset notOpen dialled configured
      · rename_i configured
        have negotiates := negotiate_negotiates transport.versions channel
        split
        · rename_i error after negotiated
          rw [negotiated] at negotiates
          exact .refused ⟨notOpen, dialled, configured⟩ negotiates
        · rename_i version after negotiated
          rw [negotiated] at negotiates
          exact .agreed ⟨notOpen, dialled, configured⟩ negotiates

/-- Where a peer is reached, what negotiation with it comes to is all that counts. -/
theorem Reaches.begin {transport : SocketTransport φ} {channel : Channel} {network : Network}
    (reaches : transport.Reaches channel network) :
    ∃ outcome after, Negotiates transport.versions channel outcome after ∧
      (∀ error, outcome = .error error → transport.begin.1 = some error) ∧
      (∀ version, outcome = .ok version → transport.begin.1 = none) ∧
      transport.begin.2.output = transport.output ++ [after.outgoing] := by
  refine ⟨_, _, negotiate_negotiates transport.versions channel, ?_⟩
  simp only [SocketTransport.begin, reaches.notOpen, reaches.dialled, reaches.configured,
    Option.isSome_none, Bool.false_eq_true, ↓reduceIte]
  obtain ⟨outcome, after⟩ := negotiate transport.versions channel
  cases outcome <;> simp [output, reaches.notOpen]

structure Decides (transport : SocketTransport φ) (channel : Channel) : Prop where
  offer : ∃ offer, transport.begin.2.output = transport.output ++ [channel.outgoing ++ offer] ∧
    offer.length = 20 ∧ offer.take 4 = Handshake.preamble ∧
    Handshake.words (offer.drop 4) = transport.versions.toList
  accepted_iff : transport.begin.1 = none ↔
    ∃ version, Handshake.answer? channel.incoming = some version ∧
      version ∈ transport.versions.toList ∧ version ≠ 0 ∧ version ≠ 0x48545450
  /-- Also if the number is among the versions that were offered. -/
  reserved : ∀ version, Handshake.answer? channel.incoming = some version →
    version = 0 ∨ version = 0x48545450 →
    ∃ error, transport.begin.1 = some error ∧ error.kind? = some .connect
  unoffered : ∀ version, Handshake.answer? channel.incoming = some version →
    version ≠ 0 → version ≠ 0x48545450 → version ∉ transport.versions.toList →
    ∃ error, transport.begin.1 = some (.protocol error)
  short : channel.incoming.bytes.length < 4 →
    ∃ error, transport.begin.1 = some error ∧ error.kind? = some .connect

theorem Reaches.unsent {transport : SocketTransport φ} {channel : Channel} {network : Network}
    (reaches : transport.Reaches channel network) (stuck : ¬ GoesOut channel) :
    ∃ error, transport.begin.1 = some error ∧ error.kind? = some .connect := by
  obtain ⟨outcome, after, negotiates, failed, _, _⟩ := reaches.begin
  cases negotiates with
  | unsent => exact ⟨_, failed _ rfl, rfl⟩
  | answered goesOut => exact absurd goesOut stuck

theorem Reaches.decides {transport : SocketTransport φ} {channel : Channel} {network : Network}
    (reaches : transport.Reaches channel network) (goesOut : GoesOut channel) :
    transport.Decides channel := by
  obtain ⟨outcome, after, negotiates, failed, accepted, output⟩ := reaches.begin
  cases negotiates with
  | unsent stuck => exact absurd goesOut stuck
  | answered _ outgoing =>
    rw [outgoing] at output
    have refused {answer : UInt32} {refusal : Handshake.Refusal}
        (found : Handshake.answer? channel.incoming = some answer)
        (judged : Handshake.agree transport.versions answer = .error refusal) :
        transport.begin.1 = some refusal.toError := by
      refine failed _ ?_
      rw [verdict, found]
      simp only [judged, Except.mapError]
    refine ⟨⟨_, output, rfl, rfl, ?offer⟩, ?accepted, ?reserved, ?unoffered, ?short⟩
    case offer => exact Handshake.words_flatMap_bytesOfWord transport.versions.toList
    case accepted =>
      constructor
      · intro started
        cases judged : verdict transport.versions channel.incoming with
        | error error =>
          rw [failed error judged] at started
          cases started
        | ok version => exact ⟨version, verdict_eq_ok_iff.mp judged⟩
      · rintro ⟨version, agreed⟩
        exact accepted version (verdict_eq_ok_iff.mpr agreed)
    case reserved =>
      intro version found meaning
      rcases meaning with rfl | rfl
      · have judged : Handshake.agree transport.versions 0 = .error .noCommonVersion := rfl
        exact ⟨_, refused found judged, rfl⟩
      · have judged : Handshake.agree transport.versions 0x48545450 = .error .webServer := rfl
        exact ⟨_, refused found judged, rfl⟩
    case unoffered =>
      intro version found known notWeb other
      have judged : Handshake.agree transport.versions version =
          .error (.notProposed version) := by
        unfold Handshake.agree Handshake.noVersion Handshake.http
        rw [if_neg known, if_neg notWeb, if_neg other]
      exact ⟨_, refused found judged⟩
    case short =>
      intro few
      have none : Handshake.answer? channel.incoming = none := if_neg (Nat.not_le.mpr few)
      have unread : verdict transport.versions channel.incoming =
          .error (causedBy "Failed to read handshake"
            (channel.incoming.failure.getD Incoming.shortRead)) := by
        rw [verdict, none]
      exact ⟨_, failed _ unread, rfl⟩

theorem kept_of_begin {transport after : SocketTransport φ} {error : Error}
    (failed : transport.begin = (some error, after)) :
    after.stream = transport.stream ∧ after.version = transport.version := by
  have begins := transport.begin_begins
  rw [failed] at begins
  cases begins with
  | unmet | unset | refused => exact ⟨rfl, rfl⟩

theorem agreed_of_begin {transport : SocketTransport φ} (notOpen : transport.stream = none)
    (started : transport.begin.1 = none) :
    ∃ channel network version, transport.dial = .ok (channel, network) ∧
      transport.begin.2.version = some version ∧
      verdict transport.versions channel.incoming = .ok version := by
  have begins := transport.begin_begins
  rw [started] at begins
  generalize transport.begin.2 = after at begins
  cases begins with
  | stays opened =>
    rw [notOpen] at opened
    cases opened
  | agreed reaches negotiates => exact ⟨_, _, _, reaches.dialled, rfl, negotiates.verdict rfl⟩

theorem versions_begin (transport : SocketTransport φ) :
    transport.begin.2.versions = transport.versions := by
  have begins := transport.begin_begins
  generalize transport.begin.1 = failure at begins
  generalize transport.begin.2 = after at begins
  cases begins <;> rfl

/-! Starting and stopping. -/

inductive Switch where
  | start
  | stop
  deriving DecidableEq

def switch (transport : SocketTransport φ) : Switch → SocketTransport φ
  | .start => transport.begin.2
  | .stop => transport.finish

def switchAll (transport : SocketTransport φ) (switches : List Switch) : SocketTransport φ :=
  switches.foldl switch transport

theorem switchAll_concat (transport : SocketTransport φ) (switches : List Switch)
    (last : Switch) :
    transport.switchAll (switches ++ [last]) = (transport.switchAll switches).switch last := by
  rw [switchAll, List.foldl_append]
  rfl

theorem versions_switchAll (transport : SocketTransport φ) (switches : List Switch) :
    (transport.switchAll switches).versions = transport.versions := by
  induction switches generalizing transport with
  | nil => rfl
  | cons first rest ih =>
    refine (ih (transport.switch first)).trans ?_
    cases first with
    | start => exact transport.versions_begin
    | stop => rfl

/-- The version that is known is one of those offered, and was agreed by the start that opened
the stream in use. -/
structure Agreed (transport : SocketTransport φ) (switches : List Switch) (version : UInt32) :
    Prop where
  known : (transport.switchAll switches).version = some version
  offered : version ∈ transport.versions.toList
  noReject : version ≠ 0
  notWeb : version ≠ 0x48545450
  opened : ∃ front rest channel network, switches = front ++ .start :: rest ∧ .stop ∉ rest ∧
    (transport.switchAll front).stream = none ∧ (transport.switchAll front).begin.1 = none ∧
    (transport.switchAll front).dial = .ok (channel, network) ∧
    Handshake.answer? channel.incoming = some version

theorem agreed_of_open {transport : SocketTransport φ} (notOpen : transport.stream = none)
    (switches : List Switch) (isOpen : (transport.switchAll switches).stream.isSome) :
    ∃ version, transport.Agreed switches version := by
  -- From the end: the last switch either opens the stream or finds it open.
  induction switches using List.reverseRecOn with
  | nil =>
    rw [switchAll, List.foldl_nil, notOpen] at isOpen
    cases isOpen
  | append_singleton switches last ih =>
    rw [switchAll_concat] at isOpen
    cases last with
    | stop => cases isOpen
    | start =>
      by_cases already : (transport.switchAll switches).stream.isSome
      · -- A start on an open transport changes nothing.
        obtain ⟨version, agreed⟩ := ih already
        obtain ⟨front, rest, channel, network, whole, unstopped, opener⟩ := agreed.opened
        have same : transport.switchAll (switches ++ [.start]) = transport.switchAll switches := by
          rw [switchAll_concat, switch, SocketTransport.begin, if_pos already]
        refine ⟨version, ⟨same ▸ agreed.known, agreed.offered, agreed.noReject, agreed.notWeb,
          front, rest ++ [.start], channel, network, ?_, ?_, opener⟩⟩
        · rw [whole, List.append_assoc]
          rfl
        · simpa using unstopped
      · have closed : (transport.switchAll switches).stream = none := by simpa using already
        have started : (transport.switchAll switches).begin.1 = none := by
          rcases begun : (transport.switchAll switches).begin with ⟨_ | error, after⟩
          · rfl
          · rw [switch, begun, (kept_of_begin begun).1, closed] at isOpen
            cases isOpen
        obtain ⟨channel, network, version, dialled, known, judged⟩ :=
          agreed_of_begin closed started
        rw [versions_switchAll] at judged
        obtain ⟨answer, offered, noReject, notWeb⟩ := verdict_eq_ok_iff.mp judged
        refine ⟨version, ⟨?_, offered, noReject, notWeb, switches, [], channel, network, rfl,
          List.not_mem_nil, closed, started, dialled, answer⟩⟩
        rw [switchAll_concat]
        exact known

end SocketTransport

/-- If the offer goes out the peer's answer decides whether a transport opens, a start that
fails changes nothing, and as long as a transport is open its version is the one agreed when
it opened. -/
theorem handshake_decides {φ : Type} (transport : SocketTransport φ) :
    (∀ channel network, transport.Reaches channel network →
      (SocketTransport.GoesOut channel → transport.Decides channel) ∧
        (¬ SocketTransport.GoesOut channel →
          ∃ error, transport.begin.1 = some error ∧ error.kind? = some .connect)) ∧
    (∀ error after, transport.begin = (some error, after) →
      after.stream = transport.stream ∧ after.version = transport.version) ∧
    (transport.stream = none → ∀ switches, (transport.switchAll switches).stream.isSome →
      ∃ version, transport.Agreed switches version) :=
  ⟨fun _ _ reaches => ⟨reaches.decides, reaches.unsent⟩,
    fun _ _ => SocketTransport.kept_of_begin, SocketTransport.agreed_of_open⟩

section

def peerSaying (bytes : List UInt8) : Channel := .ofIncoming ⟨bytes, none⟩

/-- The first peer knows none of the versions, the second one knows version one. Unused places
of the offer are filled with the number that stands for none. -/
def twoPeers : SocketTransport LineFormat :=
  ⟨"peer:7687", .ofSeconds 30, none, .standard, ⟨⟩,
    ⟨"peer:7687", [peerSaying [0, 0, 0, 0], peerSaying [0, 0, 0, 1]]⟩, none, none, [], .empty⟩

theorem handshake_decides_two_peers :
    0 ∈ twoPeers.versions.toList ∧ twoPeers.Decides (peerSaying [0, 0, 0, 0]) ∧
      twoPeers.begin.2.stream = none ∧ twoPeers.begin.2.version = none ∧
      ∃ version, twoPeers.Agreed [.start, .stop, .start, .start] version := by
  obtain ⟨reaching, failing, opening⟩ := handshake_decides twoPeers
  have resolved : SocketTransport.unresolvable? twoPeers.address = none := by decide
  have met : twoPeers.network.meet? twoPeers.address =
      some (peerSaying [0, 0, 0, 0], ⟨"peer:7687", [peerSaying [0, 0, 0, 1]]⟩) := rfl
  have patient : twoPeers.connectTimeout.isZero = false := by decide
  have reaches : twoPeers.Reaches (peerSaying [0, 0, 0, 0])
      ⟨"peer:7687", [peerSaying [0, 0, 0, 1]]⟩ :=
    ⟨rfl, by simp [SocketTransport.dial, resolved, met, patient], rfl⟩
  have refused := failing Handshake.Refusal.noCommonVersion.toError twoPeers.begin.2 rfl
  exact ⟨by decide, (reaching _ _ reaches).1 ⟨rfl, rfl⟩, refused.1, refused.2,
    opening rfl _ rfl⟩

end

end PipelinedClient
