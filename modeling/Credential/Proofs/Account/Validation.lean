import Credential.Account.Rules
import Mathlib.Data.List.TakeWhile

/-!
# Valid names and emails

An account is valid if its name and its email are of allowed lengths and the
email begins like an address.  The check looks for the first `@` and for the
first point after it; that finds a way to split the email wherever there is one.
-/

namespace Credential

/-- Dropping characters of a kind ends at the first one of another kind. -/
theorem dropWhile_eq_cons_iff
    {accepts : Char → Bool}
    {characters rest : List Char}
    {stop : Char} :
    characters.dropWhile accepts = stop :: rest ↔
      accepts stop = false ∧ ∃ front, characters = front ++ stop :: rest ∧
        ∀ character ∈ front, accepts character = true := by
  constructor
  · intro dropped
    refine ⟨?_, characters.takeWhile accepts, ?_, fun _ => List.mem_takeWhile_imp⟩
    · have stops := List.head_dropWhile_not accepts
        (show characters.dropWhile accepts ≠ [] by simp [dropped])
      simpa only [dropped, List.head_cons] using stops
    · rw [← dropped, List.takeWhile_append_dropWhile]
  · rintro ⟨stops, front, rfl, accepted⟩
    rw [List.dropWhile_append_of_pos accepted, List.dropWhile_cons_of_neg (by simp [stops])]

namespace Account

/-- Whether the number of characters of a text is allowed for a name or an email. -/
def HasFieldLength (text : String) : Prop :=
  1 ≤ text.length ∧ text.length ≤ 256

instance (text : String) : Decidable (HasFieldLength text) :=
  inferInstanceAs (Decidable (_ ∧ _))

/--
Whether a text is a mailbox, an `@`, a label, a point, and more.

There is no `@` in the mailbox, and neither an `@` nor a point in the label or at
the beginning of what follows; all three have a character at least.
-/
structure IsSplitAddress (text mailbox label rest : String) : Prop where
  text_eq : text = mailbox ++ "@" ++ label ++ "." ++ rest
  mailbox_ne : mailbox ≠ ""
  mailbox_free : '@' ∉ mailbox.toList
  label_ne : label ≠ ""
  label_free : '@' ∉ label.toList ∧ '.' ∉ label.toList
  rest_begins : ∃ first ∈ rest.toList.head?, first ≠ '@' ∧ first ≠ '.'

/-- Whether a text begins like an address. -/
def IsAddress (text : String) : Prop :=
  ∃ mailbox label rest, IsSplitAddress text mailbox label rest

/-- What is found to begin like an address can be split like one. -/
theorem isAddress_of_beginsLikeAddress
    {text : String}
    (begins : beginsLikeAddress text.toList = true) :
    IsAddress text := by
  simp only [beginsLikeAddress, ne_eq, decide_not, Bool.and_eq_true, Bool.not_eq_eq_eq_not,
    Bool.not_true, decide_eq_false_iff_not, decide_eq_true_eq] at begins
  obtain ⟨⟨⟨⟨notFirst, someAt⟩, someLabel⟩, point⟩, follows⟩ := begins
  obtain ⟨atSign, domain, found⟩ := List.exists_cons_of_ne_nil someAt
  simp only [found, List.drop_succ_cons, List.drop_zero] at someLabel point follows
  obtain ⟨isAt, mailbox, isText, mailboxFree⟩ := dropWhile_eq_cons_iff.mp found
  obtain rfl : atSign = '@' := by simpa using isAt
  obtain ⟨rest, isRest⟩ := List.head?_eq_some_iff.mp point
  obtain ⟨-, label, isDomain, labelFree⟩ := dropWhile_eq_cons_iff.mp isRest
  simp only [isRest, List.drop_succ_cons, List.drop_zero] at follows
  refine ⟨.ofList mailbox, .ofList label, .ofList rest, ?_, ?_, ?_, ?_, ?_, ?_⟩
  · rw [← String.toList_inj, isText, isDomain]
    simp
  · rintro empty
    obtain rfl : mailbox = [] := by simpa using congrArg String.toList empty
    simp [isText] at notFirst
  · rw [String.toList_ofList]
    intro member
    simpa using mailboxFree '@' member
  · rintro empty
    obtain rfl : label = [] := by simpa using congrArg String.toList empty
    simp [isDomain] at someLabel
  · rw [String.toList_ofList]
    constructor
    · intro member
      simpa using labelFree '@' member
    · intro member
      simpa using labelFree '.' member
  · rw [String.toList_ofList]
    cases rest with
    | nil => cases follows
    | cons first others => exact ⟨first, rfl, by simpa using follows⟩

/-- What can be split like an address is found to begin like one. -/
theorem IsSplitAddress.begins
    {text mailbox label rest : String}
    (split : IsSplitAddress text mailbox label rest) :
    beginsLikeAddress text.toList = true := by
  obtain ⟨rfl, mailboxNe, mailboxFree, labelNe, labelFree, first, begins, notAt, notPoint⟩ := split
  obtain ⟨others, isRest⟩ := List.head?_eq_some_iff.mp begins
  have shape : (mailbox ++ "@" ++ label ++ "." ++ rest).toList =
      mailbox.toList ++ '@' :: (label.toList ++ '.' :: first :: others) := by
    simp [isRest]
  have afterMailbox :
      (mailbox.toList ++ '@' :: (label.toList ++ '.' :: first :: others)).dropWhile (· ≠ '@') =
        '@' :: (label.toList ++ '.' :: first :: others) := by
    refine dropWhile_eq_cons_iff.mpr ⟨by simp, mailbox.toList, rfl, fun character member => ?_⟩
    rw [decide_eq_true_eq]
    rintro rfl
    exact mailboxFree member
  have afterLabel : (label.toList ++ '.' :: first :: others).dropWhile
      (fun character => character ≠ '@' && character ≠ '.') = '.' :: first :: others := by
    refine dropWhile_eq_cons_iff.mpr ⟨by simp, label.toList, rfl, fun character member => ?_⟩
    rw [Bool.and_eq_true, decide_eq_true_eq, decide_eq_true_eq]
    constructor
    · rintro rfl
      exact labelFree.1 member
    · rintro rfl
      exact labelFree.2 member
  rw [shape, beginsLikeAddress, afterMailbox]
  simp only [List.drop_succ_cons, List.drop_zero, afterLabel]
  obtain ⟨initial, more, isMailbox⟩ :=
    List.exists_cons_of_ne_nil (mt String.toList_eq_nil_iff.mp mailboxNe)
  have notFirst : initial ≠ '@' := by
    rintro rfl
    exact mailboxFree (isMailbox ▸ List.mem_cons_self)
  have someLabel : label.toList ≠ [] := mt String.toList_eq_nil_iff.mp labelNe
  simp [isMailbox, notFirst, someLabel, notAt, notPoint]

/-- The check of an email finds out whether it begins like an address. -/
theorem beginsLikeAddress_iff {text : String} :
    beginsLikeAddress text.toList = true ↔ IsAddress text :=
  ⟨isAddress_of_beginsLikeAddress, fun ⟨_, _, _, split⟩ => split.begins⟩

instance (text : String) : Decidable (IsAddress text) :=
  decidable_of_iff _ beginsLikeAddress_iff

theorem fieldLengthOk_iff {text : String} : fieldLengthOk text = true ↔ HasFieldLength text := by
  rw [fieldLengthOk, Bool.and_eq_true, decide_eq_true_eq, decide_eq_true_eq]
  rfl

/-- Whether an account has a name of an allowed length. -/
def HasValidName (account : Account) : Prop :=
  ∃ name ∈ account.name.value?, HasFieldLength name

/-- Whether an account has an email of an allowed length that begins like an address. -/
def HasValidEmail (account : Account) : Prop :=
  ∃ email ∈ account.email.value?, HasFieldLength email ∧ IsAddress email

instance (account : Account) : Decidable account.HasValidName :=
  inferInstanceAs (Decidable (∃ name ∈ account.name.value?, HasFieldLength name))

instance (account : Account) : Decidable account.HasValidEmail :=
  inferInstanceAs
    (Decidable (∃ email ∈ account.email.value?, HasFieldLength email ∧ IsAddress email))

/--
An account is valid if its name and its email are.

Otherwise a name or an email that is missing is found first, and then a name of a
length that is not allowed; what is left is the fault of the email.
-/
theorem validate_eq (account : Account) :
    account.validate =
      if account.HasValidName ∧ account.HasValidEmail then .ok ()
      else if account.name.value? = none then .error .invalidName
      else if account.email.value? = none then .error .invalidEmail
      else if ¬ account.HasValidName then .error .invalidName
      else .error .invalidEmail := by
  cases named : account.name with
  | unset => simp [validate, HasValidName, named, Field.value?]
  | null => simp [validate, HasValidName, named, Field.value?]
  | value name =>
      cases given : account.email with
      | unset => simp [validate, HasValidEmail, named, given, Field.value?]
      | null => simp [validate, HasValidEmail, named, given, Field.value?]
      | value email =>
          have validName : account.HasValidName ↔ fieldLengthOk name = true := by
            simp [HasValidName, named, Field.value?, fieldLengthOk_iff]
          have validEmail : account.HasValidEmail ↔
              fieldLengthOk email = true ∧ beginsLikeAddress email.toList = true := by
            simp [HasValidEmail, given, Field.value?, fieldLengthOk_iff, beginsLikeAddress_iff]
          simp only [validate, named, given, validName, validEmail, Field.value?, reduceCtorEq,
            ↓reduceIte]
          cases fieldLengthOk name <;> cases fieldLengthOk email <;>
            cases beginsLikeAddress email.toList <;> rfl

example : IsAddress "Zoë\n@müller.☃ @@" ∧ ¬ IsAddress "ada@@example.org" ∧
    ¬ IsAddress "ada.example@org" := by
  decide

end Account

end Credential
