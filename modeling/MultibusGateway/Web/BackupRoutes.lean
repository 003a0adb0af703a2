import MultibusGateway.Config.BackupCrypto
import MultibusGateway.Web.ConfigurationForms

/-! A backup from one device to another: it is downloaded under a passphrase, and restored under the
same one. The other device then runs with the configuration and starts with it. -/

namespace Web
open ByteString Preferences Config Security Events
open Sha256 (Digest)

/-- The backups of the web service, over the libraries that they use. -/
def backupOf (tls : MbedTls) (library : Json.Library) : Backup where
  exportConfig config :=
    match BackupService.exportConfig library config with
    | (_, false) => none
    | (output, true) => some output
  encrypt := BackupCrypto.encrypt tls library
  isEncryptedEnvelope := BackupCrypto.isEncryptedEnvelope
  decrypt := BackupCrypto.decrypt tls library
  importConfig input :=
    match BackupService.importConfig library input {} with
    | (_, error, false) => .error error
    | (config, _, true) => .ok config

section
variable {tls : MbedTls} {hmac : Bytes → Bytes → Digest}
  {cipher : Bytes → Gcm.Block → Gcm.Block} (library : Json.Library)

theorem exportConfig_faithful (config : DeviceConfig)
    (faithful : library.Faithful (BackupService.exportDocument config)) :
    (backupOf tls library).exportConfig config =
      some (library.serializeJsonPretty (BackupService.exportDocument config)) := by
  have filled : (library.serializeJsonPretty (BackupService.exportDocument config)).isEmpty =
      false := List.isEmpty_eq_false_iff.mpr faithful.1
  simp only [backupOf, BackupService.exportConfig, filled, Bool.not_false]

theorem importConfig_faithful (config : DeviceConfig)
    (transferable : BackupService.Transferable config)
    (faithful : library.Faithful (BackupService.exportDocument config)) :
    (backupOf tls library).importConfig
      (library.serializeJsonPretty (BackupService.exportDocument config)) = .ok config := by
  simp only [backupOf, transferable.imported library _ {} faithful.2]

theorem requireCsrf_admitted (request : Request) (web : WebService)
    (letIn : (web.requireCsrf request).2 = none) :
    ∃ session, web.requireCsrf request = ({ web with session := session }, none) := by
  obtain ⟨session, -, same⟩ := requireCsrf_untouched request web
  exact ⟨session, Prod.ext same letIn⟩

/-- The members of the document that a download makes. -/
def downloadMembers (hmac : Bytes → Bytes → Digest) (cipher : Bytes → Gcm.Block → Gcm.Block)
    (config : DeviceConfig) (request : Request) : List (String × Json) :=
  BackupCrypto.sealedMembers hmac cipher
    (library.serializeJsonPretty (BackupService.exportDocument config))
    request.backupPassphrase request.random

theorem handleBackupDownload_sealed (documented : BackupCrypto.Documented tls hmac cipher)
    (request : Request) (web : WebService) (letIn : (web.requireCsrf request).2 = none)
    (long : kMinimumPassphraseLength ≤ request.backupPassphrase.length)
    (exported : library.Faithful (BackupService.exportDocument web.config))
    (written : library.serializeJsonPretty
      (.object (downloadMembers library hmac cipher web.config request)) ≠ []) :
    (web.handleBackupDownload (backupOf tls library) request).2 =
      { status := 200
        body := .backup (library.serializeJsonPretty
          (.object (downloadMembers library hmac cipher web.config request))) } := by
  have encrypted := BackupCrypto.encrypt_sealed documented library
    (library.serializeJsonPretty (BackupService.exportDocument web.config))
    request.backupPassphrase request.random exported.1 long written
  have plaintext : (backupOf tls library).exportConfig web.config = _ :=
    exportConfig_faithful library web.config exported
  unfold WebService.handleBackupDownload
  obtain ⟨session, admitted⟩ := requireCsrf_admitted request web letIn
  rw [admitted]
  dsimp only
  rw [if_neg (Nat.not_lt.mpr long), plaintext]
  dsimp only [backupOf]
  rw [encrypted]
  rfl

theorem handleBackupRestore_sealed (documented : BackupCrypto.Documented tls hmac cipher)
    (download restore : Request) (config : DeviceConfig) (web : WebService)
    (letIn : (web.requireCsrf restore).2 = none)
    (long : kMinimumPassphraseLength ≤ download.backupPassphrase.length)
    (same : restore.backupPassphrase = download.backupPassphrase)
    (transferable : BackupService.Transferable config)
    (exported : library.Faithful (BackupService.exportDocument config))
    (encrypted : library.Faithful (.object (downloadMembers library hmac cipher config download)))
    (spelled : library.Spells (downloadMembers library hmac cipher config download))
    (completes : ∀ key, restore.configPuts key = true)
    (handed : restore.args .plain = some (library.serializeJsonPretty
      (.object (downloadMembers library hmac cipher config download)))) :
    let session := Session.createSession restore.doneMs restore.random
    web.handleBackupRestore (backupOf tls library) restore =
      ({ web with
          configStore := (web.configStore.save config { completes := restore.configPuts }).1
          config := config
          session := session
          rebootAt := restore.doneMs + 750 },
        { status := 200, body := .text "Backup restored successfully. Rebooting...",
          setCookie := some (WebService.sessionCookie session) }) := by
  have plaintext : library.serializeJsonPretty (BackupService.exportDocument config) ≠ [] :=
    exported.1
  have marked : (backupOf tls library).isEncryptedEnvelope (library.serializeJsonPretty
      (.object (downloadMembers library hmac cipher config download))) = true :=
    BackupCrypto.isEncryptedEnvelope_sealed library _ _ _ spelled
  have decrypted : (backupOf tls library).decrypt (library.serializeJsonPretty
      (.object (downloadMembers library hmac cipher config download))) restore.backupPassphrase =
      .ok (library.serializeJsonPretty (BackupService.exportDocument config)) := by
    rw [same]
    refine (BackupCrypto.decrypt_iff documented library _ _ _).mpr ⟨long, plaintext, _,
      encrypted.2, ?_⟩
    exact BackupCrypto.carries_sealed documented _ _ download.random plaintext
  have imported : (backupOf tls library).importConfig
      (library.serializeJsonPretty (BackupService.exportDocument config)) = .ok config :=
    importConfig_faithful library config transferable exported
  have filled : (library.serializeJsonPretty
      (.object (downloadMembers library hmac cipher config download))).isEmpty = false :=
    List.isEmpty_eq_false_iff.mpr encrypted.1
  have saved := (load_saved web.configStore config restore.configPuts completes
    transferable.saveable transferable.plain).1
  obtain ⟨session, admitted⟩ := requireCsrf_admitted restore web letIn
  unfold WebService.handleBackupRestore
  rw [admitted]
  dsimp only
  rw [Request.arg, handed, Option.getD_some, filled, if_neg Bool.false_ne_true, marked,
    if_pos rfl, decrypted]
  dsimp only
  rw [imported]
  dsimp only
  rw [WebService.saveConfig]
  dsimp only
  rw [saved]
  rfl

/-- A configuration that has been downloaded from one device is restored on another one, which
starts with it from then on. -/
theorem backup_moved (documented : BackupCrypto.Documented tls hmac cipher)
    (source target : WebService) (download restore : Request) (keyed : Hmac) (bus : EventBus 32)
    (asked : download.route = .backupDownload) (given : restore.route = .backupRestore)
    (letOut : (source.requireCsrf download).2 = none)
    (letIn : (target.requireCsrf restore).2 = none)
    (long : kMinimumPassphraseLength ≤ download.backupPassphrase.length)
    (same : restore.backupPassphrase = download.backupPassphrase)
    (transferable : BackupService.Transferable source.config)
    (exported : library.Faithful (BackupService.exportDocument source.config))
    (encrypted : library.Faithful
      (.object (downloadMembers library hmac cipher source.config download)))
    (spelled : library.Spells (downloadMembers library hmac cipher source.config download))
    (completes : ∀ key, restore.configPuts key = true) :
    ∃ document,
      (source.handleClient keyed (backupOf tls library) bus download).2 =
        { status := 200, body := .backup document } ∧
      (restore.args .plain = some document →
        let after := (target.handleClient keyed (backupOf tls library) bus restore).1
        after.config = source.config ∧ (after.configStore.load {}).1 = source.config ∧
          (after.configStore.load {}).2.2 = true ∧ after.rebootAt = restore.doneMs + 750) := by
  refine ⟨library.serializeJsonPretty
    (.object (downloadMembers library hmac cipher source.config download)), ?_, fun handed => ?_⟩
  · unfold WebService.handleClient
    rw [asked]
    exact handleBackupDownload_sealed library documented download source letOut long exported
      encrypted.1
  · have restored := handleBackupRestore_sealed library documented download restore source.config
      target letIn long same transferable exported encrypted spelled completes handed
    have loaded := (load_saved target.configStore source.config restore.configPuts completes
      transferable.saveable transferable.plain).2
    intro after
    have answered : after = (target.handleBackupRestore (backupOf tls library) restore).1 := by
      unfold after WebService.handleClient
      rw [given]
    rw [answered, restored]
    exact ⟨rfl, loaded.1, loaded.2, rfl⟩

end

/-! A backup of a fixed configuration, from one device to another in their first sessions. -/

def bothBackups (plain sealed : Json) (plainText sealedText : Bytes) : Json.Library where
  serializeJsonPretty doc := if (doc.get "version").uint32Or 0 = 1 then sealedText else plainText
  deserializeJson input :=
    if input = plainText then .ok plain
    else if input = sealedText then .ok sealed
    else .error (ascii "InvalidInput")

theorem bothBackups_faithful (plain sealed : Json) (plainText sealedText : Bytes)
    (unversioned : plain.get "version" = .null) (versioned : sealed.get "version" = .integer 1)
    (some : plainText ≠ []) (some' : sealedText ≠ []) (differ : sealedText ≠ plainText) :
    (bothBackups plain sealed plainText sealedText).serializeJsonPretty sealed = sealedText ∧
      (bothBackups plain sealed plainText sealedText).Faithful plain ∧
      (bothBackups plain sealed plainText sealedText).Faithful sealed := by
  have first : (bothBackups plain sealed plainText sealedText).serializeJsonPretty plain =
      plainText := by
    simp only [bothBackups, unversioned]
    exact if_neg (by decide)
  have second : (bothBackups plain sealed plainText sealedText).serializeJsonPretty sealed =
      sealedText := by
    simp only [bothBackups, versioned]
    exact if_pos (by decide)
  refine ⟨second, ?_, ?_⟩
  · rw [Json.Library.Faithful, first]
    exact ⟨some, if_pos rfl⟩
  · rw [Json.Library.Faithful, second]
    exact ⟨some', (if_neg differ).trans (if_pos rfl)⟩

def backupRequest (route : Route) (body : Option Bytes) : Request where
  route := route
  cookie := firstCookie
  csrfHeader := firstSession.csrfToken
  backupPassphrase := ascii "correct horse"
  args := fun name => if name = .plain then body else none
  random := UInt32.ofNat

def keyedSealed : List (String × Json) :=
  BackupCrypto.sealedMembers Sha256.hmac Aes.encryptBlock (BackupService.keyedBackup (ascii "net"))
    (ascii "correct horse") UInt32.ofNat

def keyedSealedText : Bytes :=
  BackupCrypto.sealedText Sha256.hmac Aes.encryptBlock (BackupService.keyedBackup (ascii "net"))
    (ascii "correct horse") UInt32.ofNat

def keyedLibrary : Json.Library :=
  bothBackups (BackupService.exportDocument (BackupService.keyed (ascii "net")))
    (.object keyedSealed) (BackupService.keyedBackup (ascii "net")) keyedSealedText

theorem keyedSealedText_ne : keyedSealedText ≠ BackupService.keyedBackup (ascii "net") := by
  have head : byteAt keyedSealedText 31 = 0x2d := by
    rw [keyedSealedText, BackupCrypto.sealedText, BackupCrypto.envelopeText, List.flatMap_cons,
      ← List.cons_append, byteAt_append_left _ _ _ (by decide +kernel)]
    decide +kernel
  have other : byteAt (BackupService.keyedBackup (ascii "net")) 31 = 0x22 := by
    decide +kernel
  intro same
  rw [same, other] at head
  exact absurd head (by decide)

theorem keyedLibrary_faithful :
    keyedLibrary.serializeJsonPretty (.object keyedSealed) = keyedSealedText ∧
      keyedLibrary.Faithful (BackupService.exportDocument (BackupService.keyed (ascii "net"))) ∧
      keyedLibrary.Faithful (.object keyedSealed) :=
  bothBackups_faithful _ _ _ _ rfl rfl (BackupService.keyedBackup_ne_nil _)
    (List.cons_ne_nil _ _) keyedSealedText_ne

open BackupCrypto in
theorem envelopeText_line (salt64 nonce64 tag64 ciphertext64 : Bytes) (name : String)
    (value : Bytes)
    (member : (name, Json.text value) ∈ envelopeMembers salt64 nonce64 tag64 ciphertext64) :
    textLine name value <:+: envelopeText salt64 nonce64 tag64 ciphertext64 := by
  have line (l : Bytes) (rest : List Bytes) (within : l ∈ rest) :
      l <:+: 0x7b :: rest.flatMap fun line => ascii "\r\n" ++ line :=
    ((List.suffix_append (ascii "\r\n") l).isInfix.trans
      (List.infix_of_mem_flatten (List.mem_map_of_mem within))).trans (List.suffix_cons _ _).isInfix
  simp only [envelopeMembers, List.mem_cons, Prod.mk.injEq, Json.text.injEq, reduceCtorEq,
    and_false, false_or, List.not_mem_nil, or_false] at member
  rcases member with ⟨rfl, rfl⟩ | ⟨rfl, rfl⟩ | ⟨rfl, rfl⟩ | ⟨rfl, rfl⟩ | ⟨rfl, rfl⟩ | ⟨rfl, rfl⟩ |
    ⟨rfl, rfl⟩
  iterate 6
    exact (List.prefix_append _ (ascii ",")).isInfix.trans (line _ _ (by simp))
  exact line _ _ (by simp)

open BackupCrypto in
theorem envelopeText_ends (salt64 nonce64 tag64 ciphertext64 : Bytes)
    (salted : salt64.all (· != 0) = true) (numbered : nonce64.all (· != 0) = true)
    (tagged : tag64.all (· != 0) = true) (carried : ciphertext64.all (· != 0) = true) :
    (envelopeText salt64 nonce64 tag64 ciphertext64).all (· != 0) = true := by
  simp only [envelopeText, textLine, List.flatMap_cons, List.flatMap_nil, List.all_cons,
    List.all_append, List.all_nil, salted, numbered, tagged, carried]
  decide +kernel

theorem keyedLibrary_spelled : keyedLibrary.Spells keyedSealed := by
  rw [Json.Library.Spells, keyedLibrary_faithful.1]
  constructor
  · intro zero
    have ends : keyedSealedText.all (· != 0) = true :=
      envelopeText_ends _ _ _ _ (Base64.encode_printed _) (Base64.encode_printed _)
        (Base64.encode_printed _) (Base64.encode_printed _)
    rw [List.all_eq_true] at ends
    exact absurd (ends 0 zero) (by decide)
  · intro name value member _ _
    have line := envelopeText_line _ _ _ _ name value member
    refine ⟨.trans ?_ line, .trans ?_ line⟩
    · exact ⟨ascii "  ", ascii ": \"" ++ value ++ ascii "\"", by simp [BackupCrypto.textLine]⟩
    · exact ⟨_, ascii "\"", rfl⟩

/-- The name of a network is downloaded from one device and restored on another one. -/
theorem backup_moved_keyed :
    let source : WebService :=
      { session := firstSession, config := BackupService.keyed (ascii "net") }
    let download := backupRequest .backupDownload none
    let restore := backupRequest .backupRestore (some keyedSealedText)
    ∃ document,
      (source.handleClient sha256Hmac (backupOf BackupCrypto.mbedTls keyedLibrary) {} download).2 =
        { status := 200, body := .backup document } ∧
      (restore.args .plain = some document →
        let after := (({ session := firstSession } : WebService).handleClient sha256Hmac
          (backupOf BackupCrypto.mbedTls keyedLibrary) {} restore).1
        after.config = source.config ∧ (after.configStore.load {}).1 = source.config ∧
          (after.configStore.load {}).2.2 = true ∧ after.rebootAt = restore.doneMs + 750) := by
  intro source download restore
  have admits (request : Request) (web : WebService) (session : web.session = firstSession)
      (cookie : request.cookie = firstCookie) (header : request.csrfHeader = firstSession.csrfToken)
      (soon : request.nowMs = 0) : (web.requireCsrf request).2 = none := by
    have token : WebService.suppliedToken request = firstSession.csrfToken := by
      rw [WebService.suppliedToken, header]
      rfl
    rw [requireCsrf_admits request web firstSession (by rw [session, cookie, soon]; decide +kernel)
      (by decide +kernel) (by rw [token]; decide +kernel)]
  exact backup_moved keyedLibrary BackupCrypto.mbedTls_documented source
    { session := firstSession } download restore sha256Hmac {} rfl rfl
    (admits _ _ rfl rfl rfl rfl) (admits _ _ rfl rfl rfl rfl) (by decide +kernel) rfl
    BackupService.keyed_transferable keyedLibrary_faithful.2.1 keyedLibrary_faithful.2.2
    keyedLibrary_spelled fun key => rfl

end Web
