import DiffReach.Proofs.Snapshot.Downloads
import DiffReach.Proofs.Text.Base64

namespace DiffReach

open Host

namespace Snapshot

open Text

inductive Wraps : List Char → List Char → Prop
  | nil : Wraps [] []
  | feed {cs wrapped : List Char} : Wraps cs wrapped → Wraps cs ('\n' :: wrapped)
  | keep (c : Char) {cs wrapped : List Char} : Wraps cs wrapped → Wraps (c :: cs) (c :: wrapped)

def unwrapped (content : String) : List Char :=
  content.toList.filter (· != '\n')

def bytesOf (text : String) : List UInt8 :=
  text.toUTF8.data.toList

def GiveContent (fields : Dict Value) (content : String) : Prop :=
  fields.fetch "encoding" = some (.str "base64") ∧
    ∃ v, fields.fetch "content" = some v ∧ v.truthy = true ∧ v.text = content

def GiveText (fields : Dict Value) (text : String) : Prop :=
  ∃ content, GiveContent fields content ∧ Base64.Spells (unwrapped content) (bytesOf text)

def GoBeyondAscii (fields : Dict Value) : Prop :=
  ∃ content, GiveContent fields content ∧ ¬ IsAscii content

structure Decodes (fields : Dict Value) (outcome : Except Stop (Option String)) : Prop where
  text : ∀ text, outcome = .ok (some text) ↔ GiveText fields text
  none : outcome = .ok none ↔ ¬ GoBeyondAscii fields ∧ ∀ text, ¬ GiveText fields text
  stop : ∀ cause, outcome = .error cause ↔ cause = .fault .notAscii ∧ GoBeyondAscii fields

section Content

variable {content text : String} {fields : Dict Value}

theorem Wraps.filter_eq {cs wrapped : List Char} (h : Wraps cs wrapped) (hcs : '\n' ∉ cs) :
    wrapped.filter (· != '\n') = cs := by
  induction h with
  | nil => rfl
  | feed _ ih => exact ih hcs
  | keep c _ ih =>
    rw [List.mem_cons, not_or] at hcs
    rw [List.filter_cons_of_pos (by simpa using Ne.symm hcs.1), ih hcs.2]

theorem wraps_filter (cs : List Char) : Wraps (cs.filter (· != '\n')) cs := by
  induction cs with
  | nil => exact .nil
  | cons c cs ih =>
    by_cases hfeed : c = '\n'
    · subst hfeed
      exact .feed ih
    · rw [List.filter_cons_of_pos (by simpa using hfeed)]
      exact .keep c ih

theorem isAscii_iff_unwrapped : IsAscii content ↔ ∀ c ∈ unwrapped content, c.toNat < 0x80 := by
  constructor
  · exact fun h c hc => h c (List.mem_of_mem_filter hc)
  · intro h c hc
    by_cases hfeed : c = '\n'
    · subst hfeed
      decide
    · exact h c (List.mem_filter.mpr ⟨hc, by simpa using hfeed⟩)

theorem fromUTF8?_eq_some_iff {bytes : List UInt8} :
    String.fromUTF8? ⟨bytes.toArray⟩ = some text ↔ bytes = bytesOf text := by
  constructor
  · intro h
    rw [String.fromUTF8?] at h
    split at h
    · cases h
      rfl
    · cases h
  · rintro rfl
    have hbytes : (⟨(bytesOf text).toArray⟩ : ByteArray) = text.toByteArray := rfl
    rw [String.fromUTF8?, hbytes, dif_pos text.isValidUTF8]
    rfl

theorem bytesOf_injective {other : String} (h : bytesOf text = bytesOf other) : text = other := by
  have htext := fromUTF8?_eq_some_iff.mpr (Eq.refl (bytesOf text))
  rw [fromUTF8?_eq_some_iff.mpr h] at htext
  exact (Option.some.inj htext).symm

theorem decodeContent_of_not_isAscii (h : ¬ IsAscii content) :
    decodeContent content = .error .notAscii := by
  rw [isAscii_iff_unwrapped] at h
  push Not at h
  obtain ⟨c, hc, hbeyond⟩ := h
  exact if_pos (List.any_eq_true.mpr ⟨c, hc, decide_eq_true hbeyond⟩)

theorem decodeContent_eq_ok_iff :
    decodeContent content = .ok (.ok text) ↔ Base64.Spells (unwrapped content) (bytesOf text) := by
  rw [← Base64.decode_eq_some_iff]
  by_cases hascii : IsAscii content
  · have hplain : ¬ ((unwrapped content).any fun c => decide (0x80 ≤ c.toNat)) = true := by
      rw [Bool.not_eq_true, List.any_eq_false]
      intro c hc
      have hsmall := isAscii_iff_unwrapped.mp hascii c hc
      simp only [decide_eq_true_eq]
      omega
    rw [unwrapped] at hplain ⊢
    rw [decodeContent, if_neg hplain]
    cases Base64.decode (content.toList.filter (· != '\n')) with
    | none => simp
    | some bytes =>
      rw [Option.some.injEq, ← fromUTF8?_eq_some_iff]
      dsimp only
      cases String.fromUTF8? ⟨bytes.toArray⟩ <;> simp
  · rw [decodeContent_of_not_isAscii hascii]
    refine iff_of_false (by simp) fun hdecode => hascii (isAscii_iff_unwrapped.mpr ?_)
    exact (Base64.decode_eq_some_iff.mp hdecode).isAscii

theorem encodedContent?_eq_some_iff : encodedContent? fields = some content ↔
    GiveContent fields content := by
  rw [encodedContent?, GiveContent]
  cases hencoding : fields.fetch "encoding" with
  | none => simp
  | some encoding =>
    rw [Option.getD_some, Option.some.injEq]
    split
    · cases fields.fetch "content" with
      | none => simp [Value.truthy]
      | some v => simp
    · rename_i hother
      exact iff_of_false (by simp) fun h => hother h.1

theorem giveContent_unique {other : String} (h : GiveContent fields content)
    (hother : GiveContent fields other) : content = other := by
  rw [← encodedContent?_eq_some_iff] at h hother
  exact Option.some.inj (h.symm.trans hother)

theorem decodes_replyText {reply : Reply} {v : Value} (h : reply.document = .ok v) :
    Decodes (Client.fields v) (replyText reply) := by
  rw [replyText, replyFields_of_ok h]
  simp only [bind, Except.bind, Option.bind_some]
  cases hcontent : encodedContent? (Client.fields v) with
  | none =>
    have hnone (content : String) : ¬ GiveContent (Client.fields v) content := by
      rw [← encodedContent?_eq_some_iff, hcontent]
      simp
    constructor <;> simp [GiveText, GoBeyondAscii, hnone]
  | some content =>
    have hgive := encodedContent?_eq_some_iff.mp hcontent
    have htext (text : String) : GiveText (Client.fields v) text ↔
        decodeContent content = .ok (.ok text) := by
      rw [decodeContent_eq_ok_iff]
      constructor
      · rintro ⟨other, hother, hspells⟩
        rwa [giveContent_unique hgive hother]
      · exact fun hspells => ⟨content, hgive, hspells⟩
    have hbeyond : GoBeyondAscii (Client.fields v) ↔ ¬ IsAscii content := by
      constructor
      · rintro ⟨other, hother, hascii⟩
        rwa [giveContent_unique hgive hother]
      · exact fun hascii => ⟨content, hgive, hascii⟩
    dsimp only
    by_cases hascii : IsAscii content
    · obtain ⟨result, hresult⟩ := exists_decodeContent hascii
      constructor
      all_goals
        simp only [htext, hbeyond, hresult, hascii]
        cases result <;> simp [Except.toOption]
    · constructor
      all_goals simp [htext, hbeyond, decodeContent_of_not_isAscii hascii, hascii, eq_comm]

end Content

section File

variable {network : Network} {client : Client} {repository commit : String}

theorem decodes_file {path : String} {journal : Journal} {v : Value}
    (h : (finalReply network journal.requests
      (client.contentsRequest repository (.str commit) path)).document = .ok v) :
    Decodes (Client.fields v) ((file client repository path commit).run network journal).1 := by
  obtain ⟨later, hrun, -⟩ := run_file client repository path commit network journal
  rw [hrun]
  exact decodes_replyText h

theorem file_wrapped {path text content : String} {journal : Journal} {fields : Dict Value}
    (ht : text ≠ "") (hw : Wraps (Base64.encode (bytesOf text)) content.toList)
    (hreply : (finalReply network journal.requests
      (client.contentsRequest repository (.str commit) path)).document = .ok (.object fields))
    (hencoding : fields.fetch "encoding" = some (.str "base64"))
    (hcontent : fields.fetch "content" = some (.str content)) :
    ((file client repository path commit).run network journal).1 = .ok (some text) := by
  have hspells : Base64.Spells (unwrapped content) (bytesOf text) := by
    have hencoded := Base64.spells_encode (bytesOf text)
    rwa [← hw.filter_eq hencoded.not_mem_feed] at hencoded
  have hne : content ≠ "" := by
    rintro rfl
    exact ht (bytesOf_injective hspells.eq_nil)
  have hgive : GiveContent fields content := by
    refine ⟨hencoding, .str content, hcontent, ?_, rfl⟩
    simpa [Value.truthy] using hne
  exact ((decodes_file hreply).text text).mpr ⟨content, hgive, hspells⟩

end File

def mixedText : String := "aé€😀"

/-- An encoding on lines that break inside groups and inside the padding. -/
def mixedContent : String := "YcOp\n4oKs8J+Y\n\ngA=\n=\n"

def steady (v : Value) : Network :=
  fun _ _ => .response ⟨200, .document v, none⟩

def contentFields (encoding content : String) : Dict Value :=
  [("encoding", .str encoding), ("content", .str content)]

theorem file_wrapped_mixed :
    Wraps (Base64.encode (bytesOf mixedText)) mixedContent.toList ∧
    ((file relayClient "acme/shop" "a.py" "c0ffee").run
      (steady (.object (contentFields "base64" mixedContent))) ⟨[], []⟩).1 =
        .ok (some mixedText) := by
  have hunwrapped : unwrapped mixedContent = Base64.encode (bytesOf mixedText) := by
    decide +kernel
  have hwraps : Wraps (Base64.encode (bytesOf mixedText)) mixedContent.toList := by
    rw [← hunwrapped]
    exact wraps_filter mixedContent.toList
  exact ⟨hwraps, file_wrapped (by decide) hwraps rfl rfl rfl⟩

def IsListed (network : Network) (earlier : List Request) (r : Request) : Prop :=
  (finalReply network earlier r).fails = true ∨
    ∃ v, (finalReply network earlier r).document = .ok v ∧ IsTree v

def IsSettled (reply : Reply) : Prop :=
  reply.fails = true ∨ ∃ v, reply.document = .ok v

def BringsText (reply : Reply) (text : String) : Prop :=
  ∃ v, reply.document = .ok v ∧ GiveText (Client.fields v) text

def BringsBeyondAscii (reply : Reply) : Prop :=
  ∃ v, reply.document = .ok v ∧ GoBeyondAscii (Client.fields v)

section Replies

variable {reply : Reply} {text : String}

theorem replyText_eq_some_iff (h : IsSettled reply) :
    replyText reply = .ok (some text) ↔ BringsText reply text := by
  rcases h with hfails | ⟨v, hv⟩
  · obtain ⟨failure, hfailure⟩ := Reply.fails_eq_true_iff.mp hfails
    rw [replyText, replyFields_of_fails hfails, BringsText, hfailure]
    exact iff_of_false (by simp [bind, Except.bind]) (by simp)
  · rw [(decodes_replyText hv).text]
    constructor
    · exact fun htext => ⟨v, hv, htext⟩
    · rintro ⟨w, hw, htext⟩
      obtain rfl := Except.ok.inj (hv.symm.trans hw)
      exact htext

theorem replyText_eq_error_iff (h : IsSettled reply) {cause : Stop} :
    replyText reply = .error cause ↔ cause = .fault .notAscii ∧ BringsBeyondAscii reply := by
  rcases h with hfails | ⟨v, hv⟩
  · obtain ⟨failure, hfailure⟩ := Reply.fails_eq_true_iff.mp hfails
    rw [replyText, replyFields_of_fails hfails, BringsBeyondAscii, hfailure]
    exact iff_of_false (by simp [bind, Except.bind]) (by simp)
  · rw [(decodes_replyText hv).stop]
    refine and_congr_right fun _ => ⟨fun hbeyond => ⟨v, hv, hbeyond⟩, ?_⟩
    rintro ⟨w, hw, hbeyond⟩
    obtain rfl := Except.ok.inj (hv.symm.trans hw)
    exact hbeyond

theorem keptTexts_of_error {found : List (String × Except Stop (Option String))} {cause : Stop}
    (h : ∀ entry ∈ found, ∀ other, entry.2 = .error other → other = cause)
    (hsome : ∃ entry ∈ found, entry.2 = .error cause) : keptTexts found = .error cause := by
  induction found with
  | nil =>
    obtain ⟨entry, hentry, -⟩ := hsome
    cases hentry
  | cons first rest ih =>
    obtain ⟨path, outcome⟩ := first
    obtain ⟨hfirst, hrest⟩ := List.forall_mem_cons.mp h
    cases outcome with
    | error other =>
      rw [keptTexts, hfirst other rfl]
      rfl
    | ok text =>
      have hlater : ∃ entry ∈ rest, entry.2 = .error cause := by
        obtain ⟨entry, hentry, herror⟩ := hsome
        rcases List.mem_cons.mp hentry with rfl | hentry
        · cases herror
        · exact ⟨entry, hentry, herror⟩
      rw [keptTexts, ih hrest hlater]
      rfl

theorem text?_eq_some_iff (h : IsSettled reply) :
    text? reply = some text ↔ BringsText reply text := by
  rw [← replyText_eq_some_iff h, text?]
  cases replyText reply <;> simp [Except.toOption]

def LastText (downloads : List (String × Reply)) (path text : String) : Prop :=
  ∃ before reply after, downloads = before ++ (path, reply) :: after ∧ BringsText reply text ∧
    ∀ later ∈ after, later.1 = path → ∀ other, ¬ BringsText later.2 other

theorem fetch_textsOf_eq_some_iff {downloads : List (String × Reply)}
    (h : ∀ d ∈ downloads, IsSettled d.2) {path : String} :
    (textsOf downloads).fetch path = some text ↔ LastText downloads path text := by
  have hwrite (d : String × Reply) (text : String) :
      Dict.LastWrite ((text? d.2).map (d.1, ·)).toList path text ↔
        d.1 = path ∧ text? d.2 = some text := by
    rw [← Dict.fetch_gather_eq_some_iff]
    cases text? d.2 with
    | none => simp [Dict.gather, Dict.fetch]
    | some found =>
      change Dict.fetch [(d.1, found)] path = some text ↔ _
      rw [Dict.fetch_cons]
      split <;> simp_all [Dict.fetch, eq_comm]
  have hunwritten (d : String × Reply) :
      path ∉ ((text? d.2).map (d.1, ·)).toList.map Prod.fst ↔
        (d.1 = path → text? d.2 = none) := by
    cases text? d.2 <;> simp [eq_comm]
  rw [textsOf, Dict.fetch_gather_eq_some_iff, List.filterMap_eq_flatMap_toList,
    Dict.lastWrite_flatMap]
  simp only [hwrite, hunwritten]
  constructor
  · rintro ⟨before, ⟨name, reply⟩, after, rfl, ⟨rfl, htext⟩, hafter⟩
    have hsettled := List.forall_mem_append.mp h
    obtain ⟨hreply, hlater⟩ := List.forall_mem_cons.mp hsettled.2
    refine ⟨before, reply, after, rfl, (text?_eq_some_iff hreply).mp htext, ?_⟩
    intro later hmem hname other hother
    rw [← text?_eq_some_iff (hlater later hmem), hafter later hmem hname] at hother
    cases hother
  · rintro ⟨before, reply, after, rfl, htext, hafter⟩
    have hsettled := List.forall_mem_append.mp h
    obtain ⟨hreply, hlater⟩ := List.forall_mem_cons.mp hsettled.2
    refine ⟨before, (path, reply), after, rfl, ⟨rfl, (text?_eq_some_iff hreply).mpr htext⟩, ?_⟩
    intro later hmem hname
    rw [Option.eq_none_iff_forall_ne_some]
    intro other hother
    exact hafter later hmem hname other ((text?_eq_some_iff (hlater later hmem)).mp hother)

end Replies

section Sources

variable {network : Network} {client : Client} {limits : Limits} {suffixes : List String}
  {repository commit : String}

theorem run_sources_beyondAscii (hl : limits.Positive) {journal : Journal}
    (htree : IsListed network journal.requests (client.treeRequest repository commit))
    (hfiles : ∀ d ∈ fetched client limits suffixes repository commit network journal.requests,
      IsSettled d.2)
    (h : ∃ d ∈ fetched client limits suffixes repository commit network journal.requests,
      BringsBeyondAscii d.2) :
    ((sources client limits suffixes repository commit).run network journal).1 =
      .error (.fault .notAscii) := by
  rw [run_sources hl journal htree, keptTexts_of_error]
  · rfl
  · intro entry hentry other herror
    obtain ⟨d, hd, rfl⟩ := List.mem_map.mp hentry
    exact ((replyText_eq_error_iff (hfiles d hd)).mp herror).1
  · obtain ⟨d, hd, hbeyond⟩ := h
    exact ⟨_, List.mem_map.mpr ⟨d, hd, rfl⟩,
      (replyText_eq_error_iff (hfiles d hd)).mpr ⟨rfl, hbeyond⟩⟩

theorem run_sources_ascii (hl : limits.Positive) {journal : Journal}
    (htree : IsListed network journal.requests (client.treeRequest repository commit))
    (hfiles : ∀ d ∈ fetched client limits suffixes repository commit network journal.requests,
      IsSettled d.2)
    (h : ∀ d ∈ fetched client limits suffixes repository commit network journal.requests,
      ¬ BringsBeyondAscii d.2) :
    ((sources client limits suffixes repository commit).run network journal).1 =
      .ok (textsOf (fetched client limits suffixes repository commit network
        journal.requests)) := by
  rw [run_sources hl journal htree, keptTexts_of_ok (fun d => text? d.2) fun d hd => ?_]
  · rfl
  · cases hread : replyText d.2 with
    | ok text =>
      rw [text?, hread]
      rfl
    | error cause => exact absurd ((replyText_eq_error_iff (hfiles d hd)).mp hread).2 (h d hd)

theorem contents_decode (hl : limits.Positive) (client : Client) (suffixes : List String)
    (repository commit : String) (network : Network) :
    (∀ path journal v, (finalReply network journal.requests
        (client.contentsRequest repository (.str commit) path)).document = .ok v →
      Decodes (Client.fields v) ((file client repository path commit).run network journal).1) ∧
    ∀ journal,
      let files := fetched client limits suffixes repository commit network journal.requests
      IsListed network journal.requests (client.treeRequest repository commit) →
      (∀ d ∈ files, IsSettled d.2) →
      ((∃ d ∈ files, BringsBeyondAscii d.2) →
        ((sources client limits suffixes repository commit).run network journal).1 =
          .error (.fault .notAscii)) ∧
      ((∀ d ∈ files, ¬ BringsBeyondAscii d.2) → ∃ found,
        ((sources client limits suffixes repository commit).run network journal).1 = .ok found ∧
          ∀ path text, found.fetch path = some text ↔ LastText files path text) := by
  refine ⟨fun path journal v h => decodes_file h, ?_⟩
  intro journal files htree hfiles
  constructor
  · exact run_sources_beyondAscii hl htree hfiles
  · intro h
    exact ⟨_, run_sources_ascii hl htree hfiles h, fun path text =>
      fetch_textsOf_eq_some_iff hfiles⟩

end Sources

def contentReply (content : String) : Reply :=
  .response ⟨200, .document (.object (contentFields "base64" content)), none⟩

theorem isSettled_contentReply (content : String) : IsSettled (contentReply content) :=
  Or.inr ⟨_, rfl⟩

theorem goBeyondAscii_contentFields_iff {content : String} :
    GoBeyondAscii (contentFields "base64" content) ↔ ¬ IsAscii content := by
  have hfetch : (contentFields "base64" content).fetch "content" = some (.str content) := rfl
  constructor
  · rintro ⟨other, ⟨-, v, hv, -, rfl⟩, hbeyond⟩
    obtain rfl := Option.some.inj (hfetch.symm.trans hv)
    exact hbeyond
  · intro hbeyond
    refine ⟨content, ⟨rfl, .str content, hfetch, ?_, rfl⟩, hbeyond⟩
    have hne : content ≠ "" := by
      rintro rfl
      exact hbeyond (by decide +kernel)
    simpa [Value.truthy] using hne

theorem bringsBeyondAscii_contentReply_iff {content : String} :
    BringsBeyondAscii (contentReply content) ↔ ¬ IsAscii content := by
  rw [← goBeyondAscii_contentFields_iff]
  constructor
  · rintro ⟨v, hv, hbeyond⟩
    obtain rfl := Except.ok.inj hv
    exact hbeyond
  · exact fun hbeyond => ⟨_, rfl, hbeyond⟩

def pairNetwork (first second : String) : Network := fun earlier _ =>
  match earlier with
  | [] => .response ⟨200, .document relayTree, none⟩
  | [_] => contentReply first
  | _ => contentReply second

theorem isListed_pairNetwork (first second : String) :
    IsListed (pairNetwork first second) [] (relayClient.treeRequest "acme/shop" "c0ffee") :=
  Or.inr ⟨_, rfl, isTree_relayTree⟩

theorem fetched_pairNetwork (first second : String) :
    fetched relayClient {} pythonSuffixes "acme/shop" "c0ffee" (pairNetwork first second) [] =
      [("a.py", contentReply first), ("b.py", contentReply second)] := by
  have hchosen : chosen {} pythonSuffixes (.response ⟨200, .document relayTree, none⟩) =
      ["a.py", "b.py"] := by decide +kernel
  have htree : finalReply (pairNetwork first second) []
      (relayClient.treeRequest "acme/shop" "c0ffee") =
        .response ⟨200, .document relayTree, none⟩ := rfl
  rw [fetched, htree, hchosen]
  rfl

def pairRun (first second : String) : Except Stop (Dict String) :=
  ((sources relayClient {} pythonSuffixes "acme/shop" "c0ffee").run (pairNetwork first second)
    ⟨[], []⟩).1

theorem contents_decode_binary : ∃ found, pairRun "//8=" "YQo=" = .ok found ∧
    found.fetch "b.py" = some "a\n" ∧ found.fetch "a.py" = none := by
  obtain ⟨-, hsources⟩ := contents_decode Limits.positive_default relayClient pythonSuffixes
    "acme/shop" "c0ffee" (pairNetwork "//8=" "YQo=")
  have hjournal := hsources ⟨[], []⟩ (isListed_pairNetwork _ _)
  rw [fetched_pairNetwork] at hjournal
  obtain ⟨-, hascii⟩ := hjournal
    (by simp [isSettled_contentReply])
  have hplain {content : String} (h : IsAscii content) :
      ¬ BringsBeyondAscii (contentReply content) := by
    rw [bringsBeyondAscii_contentReply_iff, not_not]
    exact h
  have hfirst : IsAscii "//8=" := by decide +kernel
  have hsecond : IsAscii "YQo=" := by decide +kernel
  obtain ⟨found, hrun, hfound⟩ := hascii (by simp [hplain hfirst, hplain hsecond])
  refine ⟨found, hrun, (hfound "b.py" "a\n").mpr ?_, ?_⟩
  · refine ⟨[_], _, [], rfl, ?_, List.forall_mem_nil _⟩
    exact (text?_eq_some_iff (isSettled_contentReply _)).mp (by decide +kernel)
  · rw [Option.eq_none_iff_forall_ne_some]
    intro text htext
    obtain ⟨before, reply, after, hfiles, hbrings, -⟩ := (hfound "a.py" text).mp htext
    have hmem : ("a.py", reply) ∈ [("a.py", contentReply "//8="), ("b.py", contentReply "YQo=")] :=
      hfiles ▸ List.mem_append_right before List.mem_cons_self
    obtain rfl : reply = contentReply "//8=" := by simpa using hmem
    have hnone : text? (contentReply "//8=") = none := by decide +kernel
    rw [← text?_eq_some_iff (isSettled_contentReply _), hnone] at hbrings
    cases hbrings

/-- The second file alone stops the reading, and the text of the first is lost with it. -/
theorem pairRun_beyondAscii :
    ((file relayClient "acme/shop" "a.py" "c0ffee").run
      (steady (.object (contentFields "base64" "é"))) ⟨[], []⟩).1 = .error (.fault .notAscii) ∧
    text? (contentReply "YQo=") = some "a\n" ∧
    pairRun "YQo=" "é" = .error (.fault .notAscii) := by
  have hbeyond : ¬ IsAscii "é" := by decide +kernel
  refine ⟨?_, by decide +kernel, ?_⟩
  · have hdecodes : Decodes (contentFields "base64" "é") ((file relayClient "acme/shop" "a.py"
        "c0ffee").run (steady (.object (contentFields "base64" "é"))) ⟨[], []⟩).1 :=
      decodes_file (v := .object (contentFields "base64" "é")) rfl
    exact (hdecodes.stop _).mpr ⟨rfl, goBeyondAscii_contentFields_iff.mpr hbeyond⟩
  · have hfetched := fetched_pairNetwork "YQo=" "é"
    refine run_sources_beyondAscii Limits.positive_default (isListed_pairNetwork _ _) ?_ ?_
    · rw [hfetched]
      simp [isSettled_contentReply]
    · rw [hfetched]
      exact ⟨_, List.mem_pair.mpr (Or.inr rfl), bringsBeyondAscii_contentReply_iff.mpr hbeyond⟩

end Snapshot

end DiffReach
