import Mathlib

/-! Symbolic cryptography: byte strings as terms, and what an attacker can derive from the terms it has
seen. Points of the Diffie-Hellman group are a base with the scalars it was multiplied by, so that
exchanges commute; the attacker multiplies and divides by the scalars it holds. -/

namespace Gatherlink.Lib.Symbolic

inductive Term where
  | text (value : String)
  | number (value : Int)
  | scalar (name : Nat)
  | base
  | power (point : Term) (scalars : Multiset Nat)
  | verifier (name : Nat)
  | hash (input : Term)
  | pair (first second : Term)
  | derived (half : Bool) (salt info input : Term)
  | sealed (key nonce ad plain : Term)
  | signed (name : Nat) (message : Term)

/-- Equality of terms. The derived instance would rewrite along equalities of bags of scalars, and not evaluate. -/
def Term.same : Term → Term → Bool
  | .text one, .text two => one == two
  | .number one, .number two => one == two
  | .scalar one, .scalar two => one == two
  | .base, .base => true
  | .power point scalars, .power point' scalars' => point.same point' && decide (scalars = scalars')
  | .verifier one, .verifier two => one == two
  | .hash one, .hash two => one.same two
  | .pair first second, .pair first' second' => first.same first' && second.same second'
  | .derived half salt info input, .derived half' salt' info' input' =>
      half == half' && salt.same salt' && info.same info' && input.same input'
  | .sealed key nonce ad plain, .sealed key' nonce' ad' plain' =>
      key.same key' && nonce.same nonce' && ad.same ad' && plain.same plain'
  | .signed name message, .signed name' message' => name == name' && message.same message'
  | _, _ => false

theorem Term.same_iff {one two : Term} : one.same two = true ↔ one = two := by
  induction one generalizing two <;> cases two <;> simp_all [Term.same, and_assoc]

instance : DecidableEq Term := fun _ _ => decidable_of_iff _ Term.same_iff

/-- Every byte string serves as a point; one that is not a known power has no known logarithm. -/
def exchange (name : Nat) : Term → Term
  | .power point scalars => .power point (name ::ₘ scalars)
  | other => .power other {name}

def publicPoint (name : Nat) : Term := exchange name .base

theorem exchange_publicPoint_comm (one two : Nat) :
    exchange one (publicPoint two) = exchange two (publicPoint one) := by
  simp only [publicPoint, exchange]
  rw [← Multiset.cons_zero, ← Multiset.cons_zero, Multiset.cons_swap]

/-- What an attacker can build that holds some scalars and has seen some terms. -/
inductive Derivable (held : Nat → Prop) (seen : Set Term) : Term → Prop where
  | seen {term : Term} : term ∈ seen → Derivable held seen term
  | text (value : String) : Derivable held seen (.text value)
  | number (value : Int) : Derivable held seen (.number value)
  | base : Derivable held seen .base
  | verifier (name : Nat) : Derivable held seen (.verifier name)
  | scalar {name : Nat} : held name → Derivable held seen (.scalar name)
  | multiply {name : Nat} {point : Term} : Derivable held seen (.scalar name) → Derivable held seen point →
      Derivable held seen (exchange name point)
  | divide {name : Nat} {point : Term} {scalars : Multiset Nat} : Derivable held seen (.scalar name) →
      Derivable held seen (.power point (name ::ₘ scalars)) → Derivable held seen (.power point scalars)
  | root {point : Term} {scalars : Multiset Nat} : scalars = 0 → Derivable held seen (.power point scalars) →
      Derivable held seen point
  | hash {input : Term} : Derivable held seen input → Derivable held seen (.hash input)
  | pair {first second : Term} : Derivable held seen first → Derivable held seen second →
      Derivable held seen (.pair first second)
  | first {first second : Term} : Derivable held seen (.pair first second) → Derivable held seen first
  | second {first second : Term} : Derivable held seen (.pair first second) → Derivable held seen second
  | derived {half : Bool} {salt info input : Term} : Derivable held seen salt → Derivable held seen info →
      Derivable held seen input → Derivable held seen (.derived half salt info input)
  | sealed {key nonce ad plain : Term} : Derivable held seen key → Derivable held seen nonce → Derivable held seen ad →
      Derivable held seen plain → Derivable held seen (.sealed key nonce ad plain)
  | opened {key nonce ad plain : Term} : Derivable held seen (.sealed key nonce ad plain) → Derivable held seen key →
      Derivable held seen plain
  | signed {name : Nat} {message : Term} : Derivable held seen (.scalar name) → Derivable held seen message →
      Derivable held seen (.signed name message)

namespace Term

variable (held : Nat → Prop)

/-- Terms that stay out of reach: scalars the attacker does not hold, points that take two such scalars, or one
over an unknown point, and everything derived from those. -/
def Hidden : Term → Prop
  | .scalar name => ¬held name
  | .power point scalars => (∃ one two rest, scalars = one ::ₘ two ::ₘ rest ∧ ¬held one ∧ ¬held two) ∨
      (point ≠ .base ∧ ∃ name ∈ scalars, ¬held name)
  | .derived _ salt _ input => salt.Hidden ∨ input.Hidden
  | _ => False

/-- Terms the attacker may come to hold, if the honest parties have made the terms in `made`. -/
def Open (made : Set Term) : Term → Prop
  | .scalar name => held name
  | .power point scalars => point.Open made ∧ ¬(Term.power point scalars).Hidden held
  | .pair first second => first.Open made ∧ second.Open made
  | .derived half salt info input => ¬(Term.derived half salt info input).Hidden held
  | .sealed key nonce ad plain => plain.Open made ∧ (¬key.Hidden held ∨ .sealed key nonce ad plain ∈ made)
  | .signed name message => held name ∨ .signed name message ∈ made
  | _ => True

variable {held} {made : Set Term} {term : Term}

theorem Open.not_hidden (opened : term.Open held made) : ¬term.Hidden held := by
  cases term with
  | scalar name => exact not_not.mpr opened
  | power point scalars => exact opened.2
  | derived half salt info input => exact opened
  | _ => exact id

theorem Open.mono {more : Set Term} (wider : made ⊆ more) (opened : term.Open held made) : term.Open held more := by
  induction term with
  | power point scalars ih => exact ⟨ih opened.1, opened.2⟩
  | pair first second one two => exact ⟨one opened.1, two opened.2⟩
  | sealed key nonce ad plain _ _ _ ih => exact ⟨ih opened.1, opened.2.imp id fun member => wider member⟩
  | signed name message _ => exact Or.imp id (fun member => wider member) opened
  | _ => exact opened

variable {name : Nat}

theorem hidden_power_cons {point : Term} {scalars : Multiset Nat} (known : held name) :
    (Term.power point (name ::ₘ scalars)).Hidden held ↔ (Term.power point scalars).Hidden held := by
  constructor
  · rintro (⟨one, two, rest, split, first, second⟩ | ⟨unknown, other, member, secret⟩)
    · have apart : name ≠ one ∧ name ≠ two := ⟨fun same => first (same ▸ known), fun same => second (same ▸ known)⟩
      have inside : name ∈ rest := by
        have member : name ∈ one ::ₘ two ::ₘ rest := split ▸ Multiset.mem_cons_self name scalars
        simpa [apart.1, apart.2] using member
      obtain ⟨rest, rfl⟩ := Multiset.exists_cons_of_mem inside
      refine .inl ⟨one, two, rest, ?_, first, second⟩
      rw [Multiset.cons_swap two, Multiset.cons_swap one] at split
      exact (Multiset.cons_inj_right name).mp split
    · rcases Multiset.mem_cons.mp member with rfl | inside
      · exact absurd known secret
      · exact .inr ⟨unknown, other, inside, secret⟩
  · rintro (⟨one, two, rest, rfl, first, second⟩ | ⟨unknown, other, member, secret⟩)
    · refine .inl ⟨one, two, name ::ₘ rest, ?_, first, second⟩
      rw [Multiset.cons_swap name, Multiset.cons_swap name]
    · exact .inr ⟨unknown, other, Multiset.mem_cons_of_mem member, secret⟩

theorem Open.exchange (known : held name) (opened : term.Open held made) :
    (Symbolic.exchange name term).Open held made := by
  have single : ¬(Term.power term {name}).Hidden held := by
    rintro (⟨one, two, rest, split, -, -⟩ | ⟨-, other, member, secret⟩)
    · simpa using congrArg Multiset.card split
    · rw [Multiset.mem_singleton.mp member] at secret
      exact secret known
  cases term with
  | power point scalars => exact ⟨opened.1, mt (hidden_power_cons known).mp opened.2⟩
  | _ => exact ⟨opened, single⟩

end Term

variable {held : Nat → Prop} {seen made : Set Term} {term : Term}

/-- Whatever the attacker derives is open if what it has seen is. -/
theorem Derivable.isOpen (openly : ∀ other ∈ seen, other.Open held made) (derivable : Derivable held seen term) :
    term.Open held made := by
  induction derivable with
  | seen member => exact openly _ member
  | text | number | base | verifier => trivial
  | scalar known => exact known
  | multiply _ _ known point => exact point.exchange known
  | divide _ _ known point => exact ⟨point.1, mt (Term.hidden_power_cons known).mpr point.2⟩
  | root _ _ point => exact point.1
  | hash _ _ => trivial
  | pair _ _ first second => exact ⟨first, second⟩
  | first _ both => exact both.1
  | second _ both => exact both.2
  | derived _ _ _ salt _ input => exact fun hidden => hidden.elim salt.not_hidden input.not_hidden
  | sealed _ _ _ _ key _ _ plain => exact ⟨plain, .inl key.not_hidden⟩
  | opened _ _ box _ => exact box.1
  | signed _ _ known _ => exact .inl known

theorem exchange_publicPoint_hidden {one two : Nat} (first : ¬held one) (second : ¬held two) :
    (exchange one (publicPoint two)).Hidden held :=
  .inl ⟨one, two, 0, rfl, first, second⟩

/-- Points with a logarithm made of the attacker's scalars. -/
def Reckoned (held : Nat → Prop) (point : Term) : Prop :=
  point = .base ∨ ∃ scalars : Multiset Nat, (∀ name ∈ scalars, held name) ∧ point = .power .base scalars

/-- A scalar out of the attacker's hands hides the secret it agrees on with any other point. -/
theorem exchange_hidden {name : Nat} {point : Term} (unheld : ¬held name) (unreckoned : ¬Reckoned held point) :
    (exchange name point).Hidden held := by
  cases point with
  | base => exact absurd (.inl rfl) unreckoned
  | power root scalars =>
    by_cases based : root = .base
    · subst based
      have secret : ∃ other ∈ scalars, ¬held other := by
        by_contra none
        push Not at none
        exact unreckoned (.inr ⟨scalars, none, rfl⟩)
      obtain ⟨other, member, otherUnheld⟩ := secret
      obtain ⟨rest, rfl⟩ := Multiset.exists_cons_of_mem member
      exact .inl ⟨name, other, rest, rfl, unheld, otherUnheld⟩
    · exact .inr ⟨based, name, Multiset.mem_cons_self .., unheld⟩
  | _ => exact .inr ⟨nofun, name, Multiset.mem_singleton_self name, unheld⟩

theorem publicPoint_open (name : Nat) : (publicPoint name).Open held made := by
  refine ⟨trivial, ?_⟩
  rintro (⟨one, two, rest, split, -, -⟩ | ⟨unknown, -⟩)
  · simpa using congrArg Multiset.card split
  · exact unknown rfl

end Gatherlink.Lib.Symbolic
