import Credential.Proofs.Text.Base64
import Credential.Proofs.Token.Algorithms
import Credential.Proofs.Token.Validation
import Credential.Proofs.Token.Written

/-!
# Pinned algorithms

The header of a token decides first.  If it cannot be read, names an algorithm that
is not accepted, or names no key, the token is refused for that reason, and what is
stored, and everything else in the token, has no part in it.
-/

namespace Credential

open Credential.Text
open Credential.Time (Instant)

namespace Token

/-! ## Parts between points -/

namespace Parts

variable {characters : List Char}

theorem cutLast?_eq_none (noPoint : '.' ∉ characters) : cutLast? characters = none := by
  have taken : characters.reverse.takeWhile (· ≠ '.') = characters.reverse := by
    rw [List.takeWhile_eq_self_iff]
    intro character member
    rw [decide_eq_true_eq]
    rintro rfl
    exact noPoint (List.mem_reverse.mp member)
  rw [cutLast?, taken, List.drop_length]

/-- Characters among which there is a point are divided by the last one. -/
theorem exists_last_point (point : '.' ∈ characters) :
    ∃ before after, characters = before ++ '.' :: after ∧ '.' ∉ after := by
  obtain ⟨after, before, reversed, noPoint⟩ :=
    List.eq_append_cons_of_mem (List.mem_reverse.mpr point)
  refine ⟨before.reverse, after.reverse, ?_, by simpa using noPoint⟩
  rw [← List.reverse_reverse characters, reversed]
  simp

end Parts

/-- What stands between the points of a token. -/
def pieces (token : String) : List (List Char) :=
  token.toList.splitOn '.'

/-- The header of a token, which must have three parts. -/
def headerOf? (token : String) : Option Header :=
  match pieces token with
  | [header, _, _] =>
      (Base64.decode? .urlSafe header).bind fun octets => Header.read? (Utf8.symbols octets)
  | _ => none

theorem two_le_length_splitOn
    {characters : List Char}
    (point : '.' ∈ characters) :
    2 ≤ (characters.splitOn '.').length := by
  obtain ⟨before, after, rfl, noPoint⟩ := Parts.exists_last_point point
  have some := List.length_pos_iff.mpr (List.splitOn_ne_nil '.' before)
  rw [List.splitOn_append_cons_self, List.splitOn_eq_singleton noPoint, List.length_append,
    List.length_singleton]
  omega

/-- Of a token with more points than two no header is read, though the last two divide it. -/
theorem header?_eq_headerOf? (token : String) :
    (Parts.ofToken? token).bind Parts.header? = headerOf? token := by
  rw [Parts.ofToken?, headerOf?, pieces]
  by_cases point : '.' ∈ token.toList
  · obtain ⟨message, signature, divided, noPoint⟩ := Parts.exists_last_point point
    rw [divided, Parts.cutLast?_append _ noPoint, List.splitOn_append_cons_self,
      List.splitOn_eq_singleton noPoint, Option.bind_eq_bind, Option.bind_some]
    dsimp only
    by_cases inner : '.' ∈ message
    · obtain ⟨header, claims, dividedAgain, noInner⟩ := Parts.exists_last_point inner
      rw [dividedAgain, Parts.cutLast?_append _ noInner, List.splitOn_append_cons_self,
        List.splitOn_eq_singleton noInner, Option.bind_some, Option.bind_some, Parts.header?]
      by_cases more : '.' ∈ header
      · have undecodable : Base64.decode? .urlSafe header = none := by
          cases decoded : Base64.decode? .urlSafe header with
          | none => rfl
          | some octets => exact (Base64.point_not_mem_of_decode? decoded more).elim
        have tooMany : 2 ≤ (header.splitOn '.').length := two_le_length_splitOn more
        rw [undecodable]
        split
        case h_1 _ _ _ three =>
          have lengths := congrArg List.length three
          simp only [List.length_append, List.length_cons, List.length_nil] at lengths
          omega
        case h_2 => rfl
      · rw [List.splitOn_eq_singleton more]
        rfl
    · rw [Parts.cutLast?_eq_none inner, List.splitOn_eq_singleton inner]
      rfl
  · rw [Parts.cutLast?_eq_none point, List.splitOn_eq_singleton point]
    rfl

/-- Why no header can be read from a token. -/
inductive IsUnreadable (token : String) : Prop where
  | divided
      (wrong : (pieces token).length ≠ 3)
  | encoded
      {header claims signature : List Char}
      (three : pieces token = [header, claims, signature])
      (undecodable : Base64.decode? .urlSafe header = none)
  | written
      {header claims signature : List Char}
      {octets : Octets}
      (three : pieces token = [header, claims, signature])
      (decoded : Base64.decode? .urlSafe header = some octets)
      (unread : Header.read? (Utf8.symbols octets) = none)
  | named
      {header claims signature : List Char}
      {octets : Octets}
      {name : String}
      (three : pieces token = [header, claims, signature])
      (decoded : Base64.decode? .urlSafe header = some octets)
      (named : Header.algorithmText? (Utf8.symbols octets) = some name)
      (unknown : Algorithm.ofName? name = none)

variable {token : String} {header : Header}

/-- No header is read from a token for one of these reasons, and for no other. -/
theorem headerOf?_eq_none_iff : headerOf? token = none ↔ IsUnreadable token := by
  rw [headerOf?]
  constructor
  · intro unreadable
    split at unreadable
    case h_1 header claims signature three =>
      cases decoded : Base64.decode? .urlSafe header with
      | none => exact .encoded three decoded
      | some octets =>
          rw [decoded] at unreadable
          exact .written three decoded unreadable
    case h_2 notThree =>
      refine .divided fun three => ?_
      obtain ⟨header, claims, signature, isThree⟩ := List.length_eq_three.mp three
      exact notThree header claims signature isThree
  · intro unreadable
    cases unreadable with
    | divided wrong =>
        split
        case h_1 three =>
          rw [three] at wrong
          exact (wrong rfl).elim
        case h_2 => rfl
    | encoded three undecodable =>
        rw [three]
        dsimp only
        rw [undecodable]
        rfl
    | written three decoded unread =>
        rw [three]
        dsimp only
        rw [decoded]
        exact unread
    | named three decoded named unknown =>
        rw [three]
        dsimp only
        rw [decoded]
        exact Header.read?_eq_none_of_algorithmText? named unknown

/-- The hash function of an algorithm is missing if the algorithm is not accepted. -/
theorem Algorithm.isNone_hash?_iff (algorithm : Algorithm) :
    algorithm.hash?.isNone = true ↔ algorithm ∉ [.rs256, .rs384, .rs512] := by
  cases algorithm <;> decide

theorem signingKid_of_isUnreadable (unreadable : IsUnreadable token) :
    signingKid token = .error .malformed := by
  rw [signingKid, header?_eq_headerOf?, headerOf?_eq_none_iff.mpr unreadable]

theorem signingKid_of_not_accepted
    (headed : headerOf? token = some header)
    (notAccepted : header.algorithm ∉ [.rs256, .rs384, .rs512]) :
    signingKid token = .error .wrongSigningMethod := by
  rw [signingKid, header?_eq_headerOf?, headed]
  exact if_pos (header.algorithm.isNone_hash?_iff.mpr notAccepted)

theorem signingKid_of_unnamed
    (headed : headerOf? token = some header)
    (accepted : header.algorithm ∈ [.rs256, .rs384, .rs512])
    (unnamed : header.kid = none ∨ header.kid = some "") :
    signingKid token = .error .unauthorized := by
  have hasHash : ¬ header.algorithm.hash?.isNone = true := by
    rw [header.algorithm.isNone_hash?_iff]
    exact not_not_intro accepted
  rw [signingKid, header?_eq_headerOf?, headed]
  dsimp only
  rw [if_neg hasHash]
  rcases unnamed with isNone | isEmpty
  · rw [isNone]
  · rw [isEmpty]
    rfl

end Token

namespace Manager

open Token (headerOf? IsUnreadable)

theorem validateToken_of_signingKid
    (manager : Manager)
    (now : Instant)
    {token : String}
    {error : Error}
    (refused : Token.signingKid token = .error error) :
    manager.validateToken token now = .error error := by
  rw [validateToken, refused]

/--
A token is refused by its header alone if no header can be read from it, if the
algorithm is not accepted, or if no key is named, in this order.  The answer is the
same for every manager, at every time, and whatever the other parts of the token.
-/
theorem validateToken_pinned (manager : Manager) (token : String) (now : Instant) :
    (IsUnreadable token → manager.validateToken token now = .error .malformed) ∧
      (headerOf? token = none → IsUnreadable token) ∧
      ∀ header, headerOf? token = some header →
        (header.algorithm ∉ [.rs256, .rs384, .rs512] →
          manager.validateToken token now = .error .wrongSigningMethod) ∧
        (header.algorithm ∈ [.rs256, .rs384, .rs512] →
          header.kid = none ∨ header.kid = some "" →
            manager.validateToken token now = .error .unauthorized) := by
  refine ⟨fun unreadable => ?_, Token.headerOf?_eq_none_iff.mp, fun header headed =>
    ⟨fun notAccepted => ?_, fun accepted unnamed => ?_⟩⟩
  · exact manager.validateToken_of_signingKid now (Token.signingKid_of_isUnreadable unreadable)
  · exact manager.validateToken_of_signingKid now
      (Token.signingKid_of_not_accepted headed notAccepted)
  · exact manager.validateToken_of_signingKid now
      (Token.signingKid_of_unnamed headed accepted unnamed)

/-- Tokens of each kind are refused by a manager whose store has never been connected. -/
theorem validateToken_pinned_closed :
    let manager : Manager := ⟨⟨.empty⟩, "memory", ⟨none, 0⟩, .memory .initial⟩
    let piece (header : String) : List Char := Base64.encode .urlSafe (Utf8.encode header)
    let unsigned := "eyJhbGciOiJub25lIn0.e30."
    let secret := "eyJhbGciOiJIUzI1NiIsImtpZCI6InUifQ.e30.AA"
    let nameless := "eyJhbGciOiJSUzUxMiIsImtpZCI6IiJ9.e30.AA"
    (IsUnreadable "e30.e30" ∧ manager.validateToken "e30.e30" .start = .error .malformed) ∧
      (Token.pieces unsigned = [piece "\x7b\"alg\":\"none\"\x7d", "e30".toList, []] ∧
        IsUnreadable unsigned ∧ manager.validateToken unsigned .start = .error .malformed) ∧
      (headerOf? secret = some ⟨.hs256, some "u"⟩ ∧
        manager.validateToken secret .start = .error .wrongSigningMethod) ∧
      headerOf? nameless = some ⟨.rs512, some ""⟩ ∧
        manager.validateToken nameless .start = .error .unauthorized := by
  intro manager piece unsigned secret nameless
  have divided : IsUnreadable "e30.e30" := .divided (by decide +kernel)
  have three : Token.pieces unsigned =
      [piece "\x7b\"alg\":\"none\"\x7d", "e30".toList, []] := by
    decide +kernel
  have named : IsUnreadable unsigned :=
    .named three (Base64.decode?_encode _ _)
      (show Token.Header.algorithmText? _ = some "none" by decide +kernel) (by decide)
  have isSecret : headerOf? secret = some ⟨.hs256, some "u"⟩ := by decide +kernel
  have isNameless : headerOf? nameless = some ⟨.rs512, some ""⟩ := by decide +kernel
  exact ⟨⟨divided, (validateToken_pinned manager _ .start).1 divided⟩,
    ⟨three, named, (validateToken_pinned manager _ .start).1 named⟩,
    ⟨isSecret, ((validateToken_pinned manager _ .start).2.2 _ isSecret).1 (by decide)⟩,
    isNameless,
    ((validateToken_pinned manager _ .start).2.2 _ isNameless).2 (by decide) (.inr rfl)⟩

end Manager

end Credential
