import Gatherlink.Lib.Symbolic
import Gatherlink.Security.Identity

/-! What session setup needs of its cryptography, and symbolic cryptography as an instance. -/

namespace Gatherlink.Security
open Lib.Symbolic

variable {B : Type}

/-- Diffie-Hellman commutes on public keys, and decryption inverts encryption. -/
structure Primitives.Correct (crypto : Primitives B) : Prop where
  exchange_comm : ∀ one two, crypto.exchange one (crypto.x25519Public two) = crypto.exchange two
    (crypto.x25519Public one)
  exchange_ok : ∀ one two, ∃ secret, crypto.exchange one (crypto.x25519Public two) = .ok secret
  public_length : ∀ own, crypto.length (crypto.x25519Public own) = 32
  decrypt_encrypt : ∀ key nonce plaintext ad,
    crypto.decrypt key nonce (crypto.encrypt key nonce plaintext ad) ad = some plaintext

/-- No two documents have the same encoding or the same hash. -/
structure Primitives.CollisionFree (crypto : Primitives B) : Prop where
  sha256 : Function.Injective crypto.sha256
  canonicalJson : Function.Injective crypto.canonicalJson
  canonicalCbor : Function.Injective crypto.canonicalCbor

section Encoding

def encodeTexts : List String → Term
  | [] => .text ""
  | value :: rest => .pair (.text value) (encodeTexts rest)

def encodeValue : Value Term → Term
  | .number value => .pair (.text "number") (.number value)
  | .text value => .pair (.text "text") (.text value)
  | .texts values => .pair (.text "texts") (encodeTexts values)
  | .bytes value => .pair (.text "bytes") value
  | .time value => .pair (.text "time") (.number value)

def encodeDocument : Document Term → Term
  | [] => .text ""
  | (name, value) :: rest => .pair (.pair (.text name) (encodeValue value)) (encodeDocument rest)

theorem encodeTexts_injective : Function.Injective encodeTexts := by
  intro one
  induction one with
  | nil =>
    intro two same
    cases two with
    | nil => rfl
    | cons value rest => simp [encodeTexts] at same
  | cons value rest ih =>
    intro two same
    cases two with
    | nil => simp [encodeTexts] at same
    | cons other others =>
      simp only [encodeTexts, Term.pair.injEq, Term.text.injEq] at same
      rw [same.1, ih same.2]

theorem encodeValue_injective : Function.Injective encodeValue := by
  intro one two same
  cases one <;> cases two <;> simp only [encodeValue, Term.pair.injEq, Term.text.injEq, Term.number.injEq] at same
  case texts.texts values others => rw [encodeTexts_injective same.2]
  all_goals simp_all

theorem encodeDocument_injective : Function.Injective encodeDocument := by
  intro one
  induction one with
  | nil =>
    intro two same
    cases two with
    | nil => rfl
    | cons entry rest => simp [encodeDocument] at same
  | cons entry rest ih =>
    intro two same
    cases two with
    | nil => simp [encodeDocument] at same
    | cons other others =>
      simp only [encodeDocument, Term.pair.injEq, Term.text.injEq] at same
      obtain ⟨⟨name, value⟩, later⟩ := same
      rw [ih later, Prod.ext name (encodeValue_injective value)]

end Encoding

/-- The scalar that a private key stands for. -/
def privateName : Term → Nat
  | .scalar name => name
  | _ => 0

def termLength : Term → Nat
  | .text value => value.length
  | .number _ => 12
  | .pair first second => termLength first + termLength second
  | .sealed _ _ _ plain => termLength plain + 16
  | .signed _ _ => 64
  | _ => 32

/-- Ideal cryptography over terms. -/
def symbolic : Primitives Term where
  ascii := .text
  zeros count := .number count
  append := .pair
  length := termLength
  decodedLength _ := 32
  sha256 := .hash
  hkdf salt info input := (.derived false salt info input, .derived true salt info input)
  encrypt key nonce plaintext ad := .sealed key nonce ad plaintext
  decrypt key nonce ciphertext ad :=
    match ciphertext with
    | .sealed key' nonce' ad' plaintext => if key' = key ∧ nonce' = nonce ∧ ad' = ad then some plaintext else none
    | _ => none
  x25519Public own := publicPoint (privateName own)
  exchange own peer := .ok (exchange (privateName own) peer)
  ed25519Public own := .verifier (privateName own)
  sign own message := .signed (privateName own) message
  verify signer message signature :=
    match signer, signature with
    | .verifier name, .signed name' message' => name' = name ∧ message' = message
    | _, _ => false
  canonicalJson document := .pair (.text "json") (encodeDocument document)
  canonicalCbor document := .pair (.text "cbor") (encodeDocument document)

theorem symbolic_correct : symbolic.Correct where
  exchange_comm one two := congrArg Except.ok (exchange_publicPoint_comm (privateName one) (privateName two))
  exchange_ok _ _ := ⟨_, rfl⟩
  public_length _ := rfl
  decrypt_encrypt key nonce plaintext ad := by simp [symbolic]

theorem symbolic_collisionFree : symbolic.CollisionFree where
  sha256 _ _ same := Term.hash.inj same
  canonicalJson _ _ same := encodeDocument_injective (Term.pair.inj same).2
  canonicalCbor _ _ same := encodeDocument_injective (Term.pair.inj same).2

theorem symbolic_decrypt {key nonce ciphertext ad plaintext : Term} :
    symbolic.decrypt key nonce ciphertext ad = some plaintext ↔ ciphertext = .sealed key nonce ad plaintext := by
  cases ciphertext with
  | sealed key' nonce' ad' plaintext' => simp [symbolic, and_assoc]
  | _ => simp [symbolic]

theorem symbolic_verify {name : Nat} {message signature : Term} :
    symbolic.verify (.verifier name) message signature = true ↔ signature = .signed name message := by
  cases signature with
  | signed name' message' => simp [symbolic]
  | _ => simp [symbolic]

section Members

def member (nodeId : String) (encoded : nodeId.length = 44) (signing static : Nat) : NodeIdentity symbolic :=
  ⟨.scalar signing, .verifier signing, .scalar static, publicPoint static, nodeId, rfl, rfl, encoded⟩

def alice : NodeIdentity symbolic := member "AAAAAAAAAAAAAAAAAAAAAAAAAAAAAAAAAAAAAAAAAAA=" rfl 1 2
def bob : NodeIdentity symbolic := member "BBBBBBBBBBBBBBBBBBBBBBBBBBBBBBBBBBBBBBBBBBA=" rfl 3 4
def mallory : NodeIdentity symbolic := member "MMMMMMMMMMMMMMMMMMMMMMMMMMMMMMMMMMMMMMMMMMA=" rfl 5 6

def threeMembers : TopologyBundleBody Term where
  generation := 1
  issuerNodeId := "issuer"
  nodes := [alice.publicRecord, bob.publicRecord, mallory.publicRecord]
  revokedNodeIds := []
  generationPositive := by decide
  nodeIdsUnique := by decide

end Members

end Gatherlink.Security
