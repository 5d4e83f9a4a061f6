/-
# Backchannel.Proofs.Http.Body -- what is read of a whole body

The pulls from the replies of a successful exchange bring what the lines of its body come to,
up to the first result that is no item (`told`).  That the body comes to a clean end is told by
no result of its own: where nothing is left there is only the end anyway.
-/
import Backchannel.Proofs.Http.Reading

namespace Backchannel.Http

set_option autoImplicit false

open Backchannel.Json (Value)
open Backchannel.Text (splitLines)
open Backchannel.Text.Utf8 (Bytes)

/-! ## Lines of a body -/

/-- What the lines of a body come to for the request: the results up to the first that is no
item. -/
def told (id : RequestId) (lines : List Bytes) : List (Pulled Value) :=
  untilOver (lines.filterMap fun line => (LineContent.ofLine line).pulled? id)

/-- The bytes of the body that are still to be read for a request. -/
structure Unread (id : RequestId) (r : Replies) (body : Bytes) : Prop where
  own : r.id = id
  waits : r.done = false
  bytes : body = r.buffer ++ r.arrived.chunks.flatten
  complete : r.arrived.ending = some .complete
  phase : r.phase = .reading ∨ (r.phase = .drained ∧ body = []) ∨
    (r.phase = .awaiting false ∧
      ∃ status, r.arrived.head = some (.ok status) ∧ status.isSuccess = true)

variable {id : RequestId} {body : Bytes} {r : Replies}

theorem Unread.remains (unread : Unread id r body) : Remains id (some .complete) r body where
  own := unread.own
  waits := unread.waits
  bytes := unread.bytes
  ends := unread.complete
  phase := by
    rcases unread.phase with reading | ⟨drained, nothing⟩ | awaiting
    · exact .inl reading
    · exact .inr (.inl ⟨drained, nothing, rfl⟩)
    · exact .inr (.inr awaiting)

/-- The pulls from the replies of a successful exchange bring what its body comes to. -/
theorem Unread.supplies (unread : Unread id r body) :
    Supplies Replies.recv r (told id (splitLines body)) := by
  intro count
  rw [unread.remains.supplies count]
  exact ahead_finished count _

/-! ## A whole exchange -/

/-- What is posted for a request. -/
def postOf (endpoint : Url) (sessionId : Option String) (r : Request) : Post :=
  ⟨Post.withoutUser endpoint, sessionId, (OutboundFrame.invoke sessionId r).toLine⟩

/-- A request is one that can be posted, and is answered with success: the body of the answer
is these bytes, in any chunks. -/
structure Answered (c : Client) (sessionId : Option String) (r : Request) (body : Bytes) :
    Prop where
  host : c.endpoint.hasHost = true
  scheme : c.endpoint.scheme = "http" ∨ c.endpoint.scheme = "https"
  header : ∀ value, sessionId = some value → value.toList.all Post.isHeaderChar = true
  arrived : ∃ status chunks, c.network (postOf c.endpoint sessionId r) =
    ⟨some (.ok status), chunks, some .complete⟩ ∧ status.isSuccess = true ∧ chunks.flatten = body

namespace Answered

variable {c : Client} {sessionId : Option String} {kind : Kind} {payload : Value}

theorem posted {request : Request} (answered : Answered c sessionId request body) :
    Post.ofRequest c.endpoint sessionId request = .ok (postOf c.endpoint sessionId request) := by
  obtain ⟨host, scheme, header, -⟩ := answered
  have legal : ((sessionId.getD "").toList.any fun ch => !Post.isHeaderChar ch) = false := by
    cases sessionId with
    | none => rfl
    | some value =>
      have all := List.all_eq_true.mp (header value rfl)
      refine List.any_eq_false.mpr fun ch among => ?_
      simp [all ch among]
  have known : ¬ (c.endpoint.scheme ≠ "http" ∧ c.endpoint.scheme ≠ "https") := by
    rintro ⟨plain, secure⟩
    rcases scheme with same | same
    · exact plain same
    · exact secure same
  simp only [Post.ofRequest, host, legal, known, Bool.true_eq_false, Bool.false_eq_true, if_false]
  rfl

/-- The whole body of the answer is then to be read. -/
theorem unread (answered : Answered c sessionId ⟨kind, id, payload⟩ body) :
    Unread id (c.send id sessionId kind payload) body := by
  have posted := answered.posted
  obtain ⟨status, chunks, arrived, success, whole⟩ := answered.arrived
  rw [Client.send, posted]
  dsimp only
  rw [arrived]
  exact ⟨rfl, rfl, whole.symm, rfl, .inr (.inr ⟨rfl, status, rfl, success⟩)⟩

end Answered

end Backchannel.Http
