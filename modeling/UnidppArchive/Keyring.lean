import UnidppArchive.Foundations.Checked
import UnidppArchive.Foundations.Trimming
import UnidppArchive.Hex.Acceptance
import UnidppArchive.Model.Record
import UnidppArchive.Reference.Crates

/-
  The notary keyring (`keyring.rs`).

  The key is derived from an operator's hex seed, or else
  from a human-readable dev seed.  A keyring says which of
  the two it is, and only the second one names its seed.

  Key definitions include:
    * `KeyScheme`
    * `Keyring`
    * `Keyring.dev`
    * `Keyring.fromEnvSeed`
    * `Keyring.fromEnvMap`
    * `Keyring.toJson`

  Key theorems include:
    * `Keyring.fromEnvMap_cases`
    * `keyring_follows_environment`
    * `disclosed_seed_rebuilds`
-/

------------------------------------------------------------
-- Key Derivation
------------------------------------------------------------

namespace UnidppArchive

/- Functions of `unidpp_signatif` that derive and show keys. -/
structure KeyScheme
    (S : Signatif) where
  seeded : Suite → Bytes → Except String S.KeyPair
  publicSuite : S.PublicKey → Suite
  publicBytes : S.PublicKey → Bytes

/-
  A key pair has the suite it was derived for, Ed25519 never
  refuses a seed, and the octets of a public key determine
  it within its suite.
-/
structure KeyScheme.Lawful
    {S : Signatif}
    (K : KeyScheme S) : Prop where
  suite :
    ∀ {suite b key},
      K.seeded suite b = .ok key → S.suite key = suite
  ed25519 : ∀ b, ∃ key, K.seeded .ed25519 b = .ok key
  publicSuite :
    ∀ key, K.publicSuite (S.publicKey key) = S.suite key
  exact :
    ∀ {p q},
      K.publicSuite p = K.publicSuite q →
        K.publicBytes p = K.publicBytes q → p = q

/- The id of a key is made of its public half. -/
structure KeyScheme.ContentDerived
    {S : Signatif}
    (K : KeyScheme S) : Prop extends K.Lawful where
  keyId :
    ∀ {key key'},
      S.publicKey key = S.publicKey key' →
        S.keyId key = S.keyId key'

end UnidppArchive

------------------------------------------------------------
-- Keyrings
------------------------------------------------------------

namespace UnidppArchive

open Json

def defaultDevSeed : String :=
  "unidpp-archive/dev-1"

def minSeedBytes : Nat :=
  16

/- How the keyring was assembled. -/
inductive KeyringMode where
  | seededDev
  | envKey
  deriving DecidableEq

def KeyringMode.asStr :
    KeyringMode → String
| .seededDev => "seeded-dev"
| .envKey => "env-key"

/-
  The notary keyring.  Its seed is known in dev mode, and in
  no other.
-/
structure Keyring
    (S : Signatif) where
  mode : KeyringMode
  notaryKey : S.KeyPair
  devSeed : Option String
  disclosed : devSeed.isSome = true ↔ mode = .seededDev

namespace Keyring

variable {S : Signatif}
variable (K : KeyScheme S)

/- The dev seed in use: trimmed, and the default for none. -/
def resolveDevSeed
    (seed : Option String) : String :=
  match seed with
  | some s =>
      if Text.trim s = "" then
        defaultDevSeed
      else
        Text.trim s
  | none => defaultDevSeed

/- What a dev key is derived from. -/
def devMaterial
    (devSeed : String) : Bytes :=
  Utf8.encode s!"unidpp-archive/notary|{devSeed}"

/- A deterministic keyring, unless the derivation panics. -/
def dev
    (seed : Option String) : Checked String (Keyring S) :=
  let devSeed := resolveDevSeed seed
  match K.seeded .ed25519 (devMaterial devSeed) with
  | .ok notaryKey =>
      .ok ⟨.seededDev, notaryKey, some devSeed, by simp⟩
  | .error _ => .error .panicked

/- A keyring of an operator's hex seed. -/
def fromEnvSeed
    (edHex : String) : Except String (Keyring S) := do
  let seed ←
    (hexDecode (Text.trim edHex)).mapError
      (fun e => s!"notary seed: not hex: {e}")
  if seed.length < minSeedBytes then
    .error
      s!"notary seed too short: {seed.length} bytes (need at least {minSeedBytes})"
  else
    let notaryKey ←
      (K.seeded .ed25519 seed).mapError
        (fun e => s!"Ed25519 key derivation: {e}")
    .ok ⟨.envKey, notaryKey, none, by simp⟩

/- The keyring of an environment, and what it warns of. -/
def fromEnvMap
    (devSeed : Option String)
    (vars : String → Option String) :
    Checked String (Keyring S × List String) :=
  match
    (vars "UNIDPP_ARCHIVE_SIGN_SEED").filter
      (Text.trim · ≠ "")
  with
  | some seed =>
      match fromEnvSeed K seed with
      | .ok keyring => .ok (keyring, [])
      | .error err =>
          (dev K devSeed).map fun keyring =>
            (keyring,
              [s!"UNIDPP_ARCHIVE_SIGN_SEED rejected: {err}; falling back to seeded-dev mode"])
  | none => (dev K devSeed).map fun keyring => (keyring, [])

/- The raw public key in hex. -/
def publicHex
    (keyring : Keyring S) : String :=
  hexEncode (K.publicBytes (S.publicKey keyring.notaryKey))

def verificationRecipe : String :=
  "Every snapshot document embeds oais.provenance.signature: Ed25519 over the canonical statement bytes in the tree-head domain. Rebuild the bytes per the discovery document's notarization recipe and verify with unidpp_signatif SignatureSlot::verify against this `public` anchor."

def devWarning : String :=
  "seeded-dev mode is for development only; production deployments must use env-key mode"

/- The public view. -/
def toJson
    (keyring : Keyring S) : Value :=
  object
    ([("mode", .string keyring.mode.asStr),
      ("role", .string "notary"),
      ("suite",
        .string (S.suiteName (S.suite keyring.notaryKey))),
      ("key_id", .string (S.keyId keyring.notaryKey)),
      ("public", .string (keyring.publicHex K)),
      ("public_len",
        u64 (UInt64.ofNat (K.publicBytes
          (S.publicKey keyring.notaryKey)).length)),
      ("domain", .string "tree-head"),
      ("adapter_note", .string adapterNote),
      ("verification", .string verificationRecipe)] ++
      match keyring.devSeed with
      | some seed =>
          [("dev_seed", .string seed),
            ("warning", .string devWarning)]
      | none => [])

end Keyring

end UnidppArchive

------------------------------------------------------------
-- Seeds
------------------------------------------------------------

namespace UnidppArchive

/-
  A text of hex digits, two for each of at least so many
  octets, in white space and behind a `0x` if it likes.
-/
structure SeedText
    (s : String) : Prop where
  even : Text.byteLen (hexBody s) % 2 = 0
  digits : ∀ c ∈ (hexBody s).toList, IsHexCode c.toNat
  length : 2 * minSeedBytes ≤ (hexBody s).toList.length

theorem seedText_iff
    {s : String} :
    SeedText s ↔
      ∃ seed, hexDecode s = .ok seed ∧
        minSeedBytes ≤ seed.length := by
  constructor
  · rintro ⟨hEven, hDigits, hLength⟩
    rcases (hexDecode_ok_iff s).mpr ⟨hEven, hDigits⟩ with
      ⟨seed, hSeed⟩
    have hOctets := length_of_hexDecode hSeed
    exact ⟨seed, hSeed, by omega⟩
  · rintro ⟨seed, hSeed, hLong⟩
    rcases (hexDecode_ok_iff s).mp ⟨seed, hSeed⟩ with
      ⟨hEven, hDigits⟩
    have hOctets := length_of_hexDecode hSeed
    exact ⟨hEven, hDigits, by omega⟩

/- A seed is not blank. -/
theorem SeedText.trim_ne_empty
    {s : String}
    (h : SeedText s) :
    Text.trim s ≠ "" := by
  intro hBlank
  have hLength := h.length
  have hBody : hexBody s = "" := by
    rw [hexBody, hBlank]
    rfl
  rw [hBody] at hLength
  exact absurd hLength (by decide)

theorem hexDecode_trim
    (s : String) :
    hexDecode (Text.trim s) = hexDecode s := by
  unfold hexDecode
  rw [Text.trim_trim]

end UnidppArchive

------------------------------------------------------------
-- From Seeds to Keyrings
------------------------------------------------------------

namespace UnidppArchive

namespace Keyring

variable {S : Signatif}
variable {K : KeyScheme S}
variable {keyring : Keyring S}

theorem dev_eq_ok_iff
    {seed : Option String} :
    dev K seed = .ok keyring ↔
      K.seeded .ed25519 (devMaterial (resolveDevSeed seed)) =
          .ok keyring.notaryKey ∧
        keyring.mode = .seededDev ∧
        keyring.devSeed = some (resolveDevSeed seed) := by
  unfold dev
  simp only
  cases K.seeded .ed25519 (devMaterial (resolveDevSeed seed))
    with
  | error e => simp
  | ok key =>
      rcases keyring with ⟨mode, notaryKey, devSeed, hMode⟩
      simp only [Except.ok.injEq, Keyring.mk.injEq]
      constructor
      · rintro ⟨rfl, rfl, rfl⟩
        exact ⟨rfl, rfl, rfl⟩
      · rintro ⟨rfl, rfl, rfl⟩
        exact ⟨rfl, rfl, rfl⟩

theorem fromEnvSeed_eq_ok_iff
    {s : String} :
    fromEnvSeed K s = .ok keyring ↔
      ∃ seed, hexDecode s = .ok seed ∧
        minSeedBytes ≤ seed.length ∧
        K.seeded .ed25519 seed = .ok keyring.notaryKey ∧
        keyring.mode = .envKey ∧ keyring.devSeed = none := by
  unfold fromEnvSeed
  rw [hexDecode_trim]
  cases hexDecode s with
  | error e => simp [Except.mapError, bind, Except.bind]
  | ok seed =>
      simp only [Except.mapError, ok_bind, Except.ok.injEq,
        exists_eq_left']
      by_cases hShort : seed.length < minSeedBytes
      · simp [hShort, Nat.not_le.mpr hShort]
      · rw [if_neg hShort]
        simp only [Nat.not_lt.mp hShort, true_and]
        cases K.seeded .ed25519 seed with
        | error e => simp [bind, Except.bind]
        | ok key =>
            rcases keyring with
              ⟨mode, notaryKey, devSeed, hMode⟩
            simp only [ok_bind, Except.ok.injEq,
              Keyring.mk.injEq]
            constructor
            · rintro ⟨rfl, rfl, rfl⟩
              exact ⟨rfl, rfl, rfl⟩
            · rintro ⟨rfl, rfl, rfl⟩
              exact ⟨rfl, rfl, rfl⟩

end Keyring

end UnidppArchive

------------------------------------------------------------
-- What the Environment Decides
------------------------------------------------------------

namespace UnidppArchive

namespace Keyring

variable {S : Signatif}
variable {K : KeyScheme S}
variable {devSeed : Option String}
variable {vars : String → Option String}

/- The value under the name of the operator's seed. -/
def signSeed
    (vars : String → Option String) : Option String :=
  vars "UNIDPP_ARCHIVE_SIGN_SEED"

/-
  An operator's seed is used, or a value that is none is
  warned of, or there is nothing but white space.
-/
theorem fromEnvMap_cases
    (hLawful : K.Lawful)
    (devSeed : Option String)
    (vars : String → Option String) :
    (∃ s seed keyring,
        signSeed vars = some s ∧ hexDecode s = .ok seed ∧
          SeedText s ∧
          fromEnvMap K devSeed vars = .ok (keyring, []) ∧
          K.seeded .ed25519 seed = .ok keyring.notaryKey ∧
          keyring.mode = .envKey ∧ keyring.devSeed = none) ∨
      (∃ s keyring warning,
        signSeed vars = some s ∧ Text.trim s ≠ "" ∧
          ¬ SeedText s ∧
          fromEnvMap K devSeed vars =
            .ok (keyring, [warning]) ∧
          dev K devSeed = .ok keyring) ∨
        ∃ keyring,
          (∀ s, signSeed vars = some s → Text.trim s = "") ∧
            fromEnvMap K devSeed vars = .ok (keyring, []) ∧
            dev K devSeed = .ok keyring := by
  have hDev : ∃ keyring, dev K devSeed = .ok keyring := by
    rcases hLawful.ed25519
        (devMaterial (resolveDevSeed devSeed)) with
      ⟨key, hKey⟩
    exact ⟨⟨.seededDev, key, some (resolveDevSeed devSeed),
      by simp⟩, dev_eq_ok_iff.mpr ⟨hKey, rfl, rfl⟩⟩
  rcases hDev with ⟨fallback, hDev⟩
  unfold fromEnvMap
  cases hVar : vars "UNIDPP_ARCHIVE_SIGN_SEED" with
  | none =>
      right; right
      refine ⟨fallback, ?_, ?_, hDev⟩
      · intro s hs
        rw [signSeed, hVar] at hs
        cases hs
      · rw [hDev]
        rfl
  | some s =>
      by_cases hBlank : Text.trim s = ""
      · right; right
        refine ⟨fallback, ?_, ?_, hDev⟩
        · intro s' hs
          rw [signSeed, hVar] at hs
          cases hs
          exact hBlank
        · simp [hBlank, hDev, Option.filter, Except.map]
      · by_cases hSeed : SeedText s
        · left
          rcases seedText_iff.mp hSeed with
            ⟨seed, hDecode, hLong⟩
          rcases hLawful.ed25519 seed with ⟨key, hKey⟩
          have hRead :
              fromEnvSeed K s =
                .ok ⟨.envKey, key, none, by simp⟩ :=
            fromEnvSeed_eq_ok_iff.mpr
              ⟨seed, hDecode, hLong, hKey, rfl, rfl⟩
          refine ⟨s, seed, ⟨.envKey, key, none, by simp⟩, hVar,
            hDecode, hSeed, ?_, hKey, rfl, rfl⟩
          simp [hBlank, hRead, Option.filter]
        · right; left
          cases hRead : fromEnvSeed K s with
          | ok keyring =>
              rcases fromEnvSeed_eq_ok_iff.mp hRead with
                ⟨seed, hDecode, hLong, -⟩
              exact absurd
                (seedText_iff.mpr ⟨seed, hDecode, hLong⟩) hSeed
          | error e =>
              refine ⟨s, fallback,
                s!"UNIDPP_ARCHIVE_SIGN_SEED rejected: {e}; falling back to seeded-dev mode",
                hVar, hBlank, hSeed, ?_, hDev⟩
              simp [hBlank, hRead, hDev, Option.filter,
                Except.map]

/- Some keyring is resolved in every environment. -/
theorem exists_fromEnvMap
    (hLawful : K.Lawful)
    (devSeed : Option String)
    (vars : String → Option String) :
    ∃ keyring warnings,
      fromEnvMap K devSeed vars = .ok (keyring, warnings) := by
  rcases fromEnvMap_cases hLawful devSeed vars with
    ⟨_, _, keyring, -, -, -, hRead, -⟩ |
    ⟨_, keyring, _, -, -, -, hRead, -⟩ | ⟨keyring, -, hRead, -⟩
  · exact ⟨keyring, _, hRead⟩
  · exact ⟨keyring, _, hRead⟩
  · exact ⟨keyring, _, hRead⟩

section Resolved

variable {keyring : Keyring S}
variable {warnings : List String}
variable (hLawful : K.Lawful)
variable
  (h : fromEnvMap K devSeed vars = .ok (keyring, warnings))

include hLawful h

/-
  A resolved keyring is that of a seed text, or the dev one
  and any value that is not blank is warned of.
-/
theorem resolved_cases :
    (∃ s seed,
        signSeed vars = some s ∧ SeedText s ∧
          hexDecode s = .ok seed ∧
          K.seeded .ed25519 seed = .ok keyring.notaryKey ∧
          keyring.mode = .envKey ∧ warnings = []) ∨
      ((∀ s, signSeed vars = some s → ¬ SeedText s) ∧
        dev K devSeed = .ok keyring ∧
        (warnings ≠ [] ↔
          ∃ s, signSeed vars = some s ∧ Text.trim s ≠ "")) := by
  rcases fromEnvMap_cases hLawful devSeed vars with
    ⟨s, seed, k, hVar, hDecode, hSeed, hRead, hKey, hMode,
      -⟩ |
    ⟨s, k, warning, hVar, hSome, hNone, hRead, hDev⟩ |
    ⟨k, hBlank, hRead, hDev⟩
  · rw [h] at hRead
    cases hRead
    exact Or.inl
      ⟨s, seed, hVar, hSeed, hDecode, hKey, hMode, rfl⟩
  · rw [h] at hRead
    cases hRead
    refine Or.inr ⟨?_, hDev, ?_⟩
    · intro s' hVar'
      rw [hVar] at hVar'
      cases hVar'
      exact hNone
    · exact ⟨fun _ => ⟨s, hVar, hSome⟩, fun _ => by simp⟩
  · rw [h] at hRead
    cases hRead
    refine Or.inr ⟨?_, hDev, ?_⟩
    · intro s hVar hSeed
      exact hSeed.trim_ne_empty (hBlank s hVar)
    · constructor
      · intro hSome
        exact absurd rfl hSome
      · intro hSome
        rcases hSome with ⟨s, hVar, hFull⟩
        exact absurd (hBlank s hVar) hFull

/- A resolved keyring signs with Ed25519. -/
theorem suite_of_fromEnvMap :
    S.suite keyring.notaryKey = .ed25519 := by
  rcases resolved_cases hLawful h with
    ⟨_, _, -, -, -, hKey, -⟩ | ⟨-, hDev, -⟩
  · exact hLawful.suite hKey
  · exact hLawful.suite (dev_eq_ok_iff.mp hDev).1

theorem envKey_iff_seedText :
    keyring.mode = .envKey ↔
      ∃ s, signSeed vars = some s ∧ SeedText s := by
  rcases resolved_cases hLawful h with
    ⟨s, _, hVar, hSeed, -, -, hMode, -⟩ | ⟨hNone, hDev, -⟩
  · exact ⟨fun _ => ⟨s, hVar, hSeed⟩, fun _ => hMode⟩
  · constructor
    · intro hMode
      rw [(dev_eq_ok_iff.mp hDev).2.1] at hMode
      cases hMode
    · intro hSome
      rcases hSome with ⟨s, hVar, hSeed⟩
      exact absurd hSeed (hNone s hVar)

theorem warned_iff :
    warnings ≠ [] ↔
      ∃ s, signSeed vars = some s ∧ Text.trim s ≠ "" ∧
        ¬ SeedText s := by
  rcases resolved_cases hLawful h with
    ⟨s, _, hVar, hSeed, -, -, -, hQuiet⟩ |
    ⟨hNone, -, hWarned⟩
  · constructor
    · intro hSome
      exact absurd hQuiet hSome
    · intro hOther
      rcases hOther with ⟨s', hVar', -, hNot⟩
      rw [hVar] at hVar'
      cases hVar'
      exact absurd hSeed hNot
  · rw [hWarned]
    constructor
    · intro hSome
      rcases hSome with ⟨s, hVar, hFull⟩
      exact ⟨s, hVar, hFull, hNone s hVar⟩
    · intro hSome
      rcases hSome with ⟨s, hVar, hFull, -⟩
      exact ⟨s, hVar, hFull⟩

/- A keyring in dev mode is made from the dev seed. -/
theorem dev_of_seededDev
    (hMode : keyring.mode = .seededDev) :
    dev K devSeed = .ok keyring := by
  rcases resolved_cases hLawful h with
    ⟨_, _, -, -, -, -, hEnv, -⟩ | ⟨-, hDev, -⟩
  · rw [hMode] at hEnv
    cases hEnv
  · exact hDev

end Resolved

/-
  Some keyring is resolved in every environment.  It is the
  operator's exactly if the value is a seed text, and then
  the value alone decides it; else the dev seed alone does.
  A value that is neither a seed nor blank is warned of.
-/
theorem keyring_follows_environment
    (hLawful : K.Lawful)
    (devSeed : Option String)
    (vars : String → Option String) :
    ∃ keyring warnings,
      fromEnvMap K devSeed vars = .ok (keyring, warnings) ∧
        (keyring.mode = .envKey ↔
          ∃ s, signSeed vars = some s ∧ SeedText s) ∧
        (∀ s seed,
          signSeed vars = some s → SeedText s →
            hexDecode s = .ok seed →
              K.seeded .ed25519 seed = .ok keyring.notaryKey) ∧
        (keyring.mode = .seededDev →
          K.seeded .ed25519
              (devMaterial (resolveDevSeed devSeed)) =
            .ok keyring.notaryKey) ∧
        (warnings ≠ [] ↔
          ∃ s, signSeed vars = some s ∧ Text.trim s ≠ "" ∧
            ¬ SeedText s) ∧
        S.suite keyring.notaryKey = .ed25519 := by
  rcases exists_fromEnvMap hLawful devSeed vars with
    ⟨keyring, warnings, hRead⟩
  refine ⟨keyring, warnings, hRead,
    envKey_iff_seedText hLawful hRead, ?_, ?_,
    warned_iff hLawful hRead,
    suite_of_fromEnvMap hLawful hRead⟩
  · intro s seed hVar hSeed hDecode
    rcases resolved_cases hLawful hRead with
      ⟨s', seed', hVar', -, hDecode', hKey, -⟩ | ⟨hNone, -⟩
    · rw [hVar] at hVar'
      cases hVar'
      rw [hDecode] at hDecode'
      cases hDecode'
      exact hKey
    · exact absurd hSeed (hNone s hVar)
  · intro hMode
    have hDev := dev_of_seededDev hLawful hRead hMode
    exact (dev_eq_ok_iff.mp hDev).1

end Keyring

end UnidppArchive

------------------------------------------------------------
-- What a Keyring Shows
------------------------------------------------------------

namespace UnidppArchive

open Json

namespace Keyring

variable {S : Signatif}
variable {K : KeyScheme S}
variable {keyring : Keyring S}

/- The members by which a verifier finds the key. -/
structure Shown
    (K : KeyScheme S)
    (keyring : Keyring S)
    (doc : Value) : Prop where
  mode : doc.get? "mode" = some (.string keyring.mode.asStr)
  suite :
    doc.get? "suite" =
      some (.string (S.suiteName (S.suite keyring.notaryKey)))
  keyId :
    doc.get? "key_id" =
      some (.string (S.keyId keyring.notaryKey))
  anchor :
    doc.get? "public" = some (.string (keyring.publicHex K))
  devSeed :
    doc.get? "dev_seed" = keyring.devSeed.map .string
  warning :
    doc.get? "warning" =
      keyring.devSeed.map fun _ => .string devWarning

theorem shown_toJson
    (K : KeyScheme S)
    (keyring : Keyring S) :
    Shown K keyring (keyring.toJson K) := by
  unfold toJson
  cases hSeed : keyring.devSeed <;>
    constructor <;> simp [hSeed]

/- The resolved dev seed is resolved to itself. -/
theorem resolveDevSeed_idem
    (seed : Option String) :
    resolveDevSeed (some (resolveDevSeed seed)) =
      resolveDevSeed seed := by
  have hDefault :
      Text.trim defaultDevSeed = defaultDevSeed ∧
        defaultDevSeed ≠ "" := by
    decide
  cases seed with
  | none => simp [resolveDevSeed, hDefault]
  | some s =>
      by_cases hBlank : Text.trim s = ""
      · simp [resolveDevSeed, hBlank, hDefault]
      · simp [resolveDevSeed, hBlank]

/- No seed is kept in a keyring of an operator. -/
theorem devSeed_eq_none_iff
    (keyring : Keyring S) :
    keyring.devSeed = none ↔ keyring.mode = .envKey := by
  have hDisclosed := keyring.disclosed
  cases hMode : keyring.mode with
  | seededDev =>
      rw [hMode] at hDisclosed
      have hSome := hDisclosed.mpr rfl
      rw [Option.isSome_iff_ne_none] at hSome
      simp [hSome]
  | envKey =>
      rw [hMode] at hDisclosed
      simpa using hDisclosed

/- A dev keyring is that of the seed that it keeps. -/
theorem dev_of_devSeed
    {devSeed : Option String}
    {seed : String}
    (hDev : dev K devSeed = .ok keyring)
    (hSeed : keyring.devSeed = some seed) :
    dev K (some seed) = .ok keyring := by
  rcases dev_eq_ok_iff.mp hDev with ⟨hKey, hMode, hName⟩
  have hSame :
      resolveDevSeed (some seed) = resolveDevSeed devSeed := by
    rw [hSeed, Option.some.injEq] at hName
    rw [hName, resolveDevSeed_idem]
  rw [dev_eq_ok_iff, hSame]
  exact ⟨hKey, hMode, hName⟩

/- An operator's keyring shows the public half of its key. -/
theorem toJson_congr
    (hDerived : K.ContentDerived)
    {other : Keyring S}
    (hMode : keyring.mode = .envKey)
    (hOther : other.mode = .envKey)
    (hPublic :
      S.publicKey other.notaryKey =
        S.publicKey keyring.notaryKey) :
    other.toJson K = keyring.toJson K := by
  have hSuite :
      S.suite other.notaryKey = S.suite keyring.notaryKey := by
    rw [← hDerived.publicSuite, hPublic, hDerived.publicSuite]
  have hNone := (devSeed_eq_none_iff keyring).mpr hMode
  have hNone' := (devSeed_eq_none_iff other).mpr hOther
  unfold toJson publicHex
  rw [hNone, hNone', hMode, hOther, hDerived.keyId hPublic,
    hPublic, hSuite]

/-
  The seed that a dev keyring shows yields the same keyring
  again, wherever it is used and however it was resolved.  A
  keyring of an operator's seed shows none, and what it shows
  is a function of the public half of its key.
-/
theorem disclosed_seed_rebuilds
    (hDerived : K.ContentDerived)
    {devSeed : Option String}
    {vars : String → Option String}
    {warnings : List String}
    (h :
      fromEnvMap K devSeed vars = .ok (keyring, warnings)) :
    (∀ seed,
        (keyring.toJson K).get? "dev_seed" =
            some (.string seed) →
          ∀ vars', signSeed vars' = none →
            fromEnvMap K (some seed) vars' =
              .ok (keyring, [])) ∧
      ((keyring.toJson K).get? "dev_seed" = none ↔
        keyring.mode = .envKey) ∧
      (keyring.mode = .envKey →
        ∀ other : Keyring S, other.mode = .envKey →
          S.publicKey other.notaryKey =
              S.publicKey keyring.notaryKey →
            other.toJson K = keyring.toJson K) := by
  have hShown := shown_toJson K keyring
  refine ⟨?_, ?_, ?_⟩
  · intro seed hSeed vars' hUnset
    rw [hShown.devSeed] at hSeed
    have hKept : keyring.devSeed = some seed := by
      simpa using hSeed
    have hMode : keyring.mode = .seededDev := by
      rw [← keyring.disclosed, hKept]
      rfl
    have hDev := dev_of_seededDev hDerived.toLawful h hMode
    unfold fromEnvMap
    unfold signSeed at hUnset
    rw [hUnset, dev_of_devSeed hDev hKept]
    rfl
  · rw [hShown.devSeed, Option.map_eq_none_iff]
    exact devSeed_eq_none_iff keyring
  · intro hMode other hOther hPublic
    exact toJson_congr hDerived hMode hOther hPublic

end Keyring

end UnidppArchive

------------------------------------------------------------
-- Sample Keyrings
------------------------------------------------------------

namespace UnidppArchive

open Keyring

namespace Reference

/- Keys of `Reference.signatif`, which are their seeds. -/
def keyScheme : KeyScheme crates.signatif where
  seeded
    | .ed25519, b => .ok b
    | _, _ => .error "deferred suite"
  publicSuite := fun _ => .ed25519
  publicBytes := fun p => p

theorem lawful_keyScheme :
    keyScheme.Lawful where
  suite := by
    intro suite b key h
    cases suite with
    | ed25519 => rfl
    | _ => cases h
  ed25519 := fun b => ⟨b, rfl⟩
  publicSuite := fun _ => rfl
  exact := fun _ h => h

theorem contentDerived_keyScheme :
    keyScheme.ContentDerived where
  toLawful := lawful_keyScheme
  keyId := fun h => congrArg keyIdOf h

/- An environment in which one variable is set. -/
def onlyVar
    (name value : String)
    (key : String) : Option String :=
  if key = name then some value else none

/- Sixteen octets in upper case, behind a prefix. -/
def seedVar : String → Option String :=
  onlyVar "UNIDPP_ARCHIVE_SIGN_SEED"
    " 0x00112233445566778899AABBCCDDEEFF"

def sampleSeed : Bytes :=
  [0, 17, 34, 51, 68, 85, 102, 119, 136, 153, 170, 187, 204,
    221, 238, 255]

theorem hexDecode_seedVar :
    hexDecode " 0x00112233445566778899AABBCCDDEEFF" =
      .ok sampleSeed := by
  decide +kernel

theorem seedText_seedVar :
    SeedText " 0x00112233445566778899AABBCCDDEEFF" :=
  seedText_iff.mpr
    ⟨sampleSeed, hexDecode_seedVar, by decide⟩

end Reference

open Reference in
/- An operator's seed is used without a warning. -/
theorem Keyring.keyring_follows_environment_sample :
    ∃ keyring,
      fromEnvMap keyScheme (some "plant 7") seedVar =
          .ok (keyring, []) ∧
        keyring.mode = .envKey ∧
        keyScheme.seeded .ed25519 sampleSeed =
          .ok keyring.notaryKey := by
  have hVar :
      signSeed seedVar =
        some " 0x00112233445566778899AABBCCDDEEFF" :=
    rfl
  rcases keyring_follows_environment lawful_keyScheme
      (some "plant 7") seedVar with
    ⟨keyring, warnings, hRead, hMode, hKey, -, hWarned, -⟩
  have hNone : warnings = [] := by
    by_contra hSome
    rcases hWarned.mp hSome with ⟨s, hs, -, hNot⟩
    rw [hVar] at hs
    cases hs
    exact hNot seedText_seedVar
  rw [hNone] at hRead
  exact ⟨keyring, hRead,
    hMode.mpr ⟨_, hVar, seedText_seedVar⟩,
    hKey _ sampleSeed hVar seedText_seedVar hexDecode_seedVar⟩

open Reference in
/- A dev seed in white space is shown without it. -/
theorem Keyring.disclosed_seed_rebuilds_sample :
    ∃ keyring,
      fromEnvMap keyScheme (some " plant 7 ")
            (fun _ => none) =
          .ok (keyring, []) ∧
        fromEnvMap keyScheme (some "plant 7")
            (fun _ => none) =
          .ok (keyring, []) := by
  have hDev :
      ∃ keyring : Keyring crates.signatif,
        dev keyScheme (some " plant 7 ") = .ok keyring :=
    ⟨_, rfl⟩
  rcases hDev with ⟨keyring, hDev⟩
  have hRead :
      fromEnvMap keyScheme (some " plant 7 ")
          (fun _ => none) =
        .ok (keyring, []) := by
    unfold fromEnvMap
    rw [hDev]
    rfl
  have hSeed : keyring.devSeed = some "plant 7" := by
    rw [(dev_eq_ok_iff.mp hDev).2.2]
    decide
  refine ⟨keyring, hRead, ?_⟩
  apply (disclosed_seed_rebuilds contentDerived_keyScheme
    hRead).1 _ _ _ rfl
  rw [(shown_toJson keyScheme keyring).devSeed, hSeed]
  rfl

end UnidppArchive
