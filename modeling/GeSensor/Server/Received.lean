/-
  Server/Received.lean --- what the server has of a request.

  The server reads once, into a buffer of 4096 bytes, and takes the text of this read
  for the request.  It may end in the target, in the version, in a field or in the
  body, and a character that is cut has become U+FFFD.  The lemmas say what the
  server's text operations find in such a text.
-/
import GeSensor.Foundation.Utf8Lossy
import GeSensor.Server.Request

set_option autoImplicit false

namespace GeSensor.Server

open GeSensor.Foundation

/-- The buffer of a connection. -/
def bufferSize : Nat := 4096

/-- `text.as_bytes()`. -/
def bytesOf (text : Text) : Bytes := asBytes (String.ofList text)

/-! ## Behind the target -/

/-- What a text that ends somewhere can have behind the target: nothing, a part of the
version, or the version and its line end. -/
inductive Behind (version : HttpVersion) : Text → Prop where
  | nothing : Behind version []
  | part {word : Text} (hword : word <+: version.text) : Behind version (' ' :: word)
  | line (rest : Text) : Behind version (' ' :: (version.text ++ '\r' :: rest))

theorem not_mem_version {version : HttpVersion} {char : Char}
    (hchar : char ∉ "HTP/.0123456789".toList) : char ∉ version.text :=
  fun hmem => hchar (HttpVersion.mem_text hmem)

namespace Behind

variable {version : HttpVersion} {behind : Text}

/-- The target ends where the text does, or at a space. -/
theorem separated (h : Behind version behind) : behind = [] ∨ ∃ rest, behind = ' ' :: rest := by
  cases h with
  | nothing => exact Or.inl rfl
  | part => exact Or.inr ⟨_, rfl⟩
  | line => exact Or.inr ⟨_, rfl⟩

/-- A cut at a pattern is behind the version. -/
theorem upTo {pattern : Text} {first : Char} (hfirst : first ∈ pattern) (hspace : first ≠ ' ')
    (hversion : first ∉ version.text) (hreturn : '\r' ∉ pattern) (h : Behind version behind) :
    Behind version (Foundation.upTo pattern behind) ∧
      ((Foundation.upTo pattern behind).length ≤ 1 ↔ behind.length ≤ 1) := by
  have hne : pattern ≠ [] := List.ne_nil_of_mem hfirst
  have hnone : ∀ {text : Text}, first ∉ text → ¬ pattern <:+: text :=
    fun htext hoccurs => htext (hoccurs.subset hfirst)
  cases h with
  | nothing =>
      rw [upTo_of_not_occurs hne (hnone List.not_mem_nil)]
      exact ⟨.nothing, Iff.rfl⟩
  | part hword =>
      have hpart := List.not_mem_cons_of_ne_of_not_mem hspace fun hmem =>
        hversion (hword.subset hmem)
      rw [upTo_of_not_occurs hne (hnone hpart)]
      exact ⟨.part hword, Iff.rfl⟩
  | line rest =>
      have hline := List.not_mem_cons_of_ne_of_not_mem hspace hversion
      rw [← List.cons_append, upTo_append_separator hne hreturn (hnone hline)]
      exact ⟨.line _, iff_of_false (by simp) (by simp)⟩

/-- So is a cut at a question mark. -/
theorem takeWhile (h : Behind version behind) :
    Behind version (behind.takeWhile (· != '?')) := by
  have hversion : '?' ∉ version.text := not_mem_version (by decide)
  cases h with
  | nothing => exact .nothing
  | part hword =>
      have hpart := List.not_mem_cons_of_ne_of_not_mem (by decide : '?' ≠ ' ') fun hmem =>
        hversion (hword.subset hmem)
      rw [takeWhile_of_not_mem hpart]
      exact .part hword
  | line rest =>
      have hline : '?' ∉ ' ' :: (version.text ++ ['\r']) := by simp [hversion]
      have happend : ' ' :: (version.text ++ '\r' :: rest) =
          (' ' :: (version.text ++ ['\r'])) ++ rest := by simp
      rw [happend, takeWhile_append_of_not_mem hline]
      have hcut : Behind version (' ' :: (version.text ++ '\r' :: rest.takeWhile (· != '?'))) :=
        .line _
      simpa using hcut

/-- The first word is a part of the version. -/
theorem head?_splitWhitespace (h : Behind version behind) :
    (splitWhitespace behind).head? = none ∧ behind.length ≤ 1 ∨
      ∃ word, (splitWhitespace behind).head? = some word ∧ word ≠ [] ∧ word <+: version.text ∧
        1 < behind.length := by
  cases h with
  | nothing => exact Or.inl ⟨rfl, Nat.zero_le _⟩
  | @part word hword =>
      rw [splitWhitespace_separator rfl]
      by_cases hne : word = []
      · subst hne
        exact Or.inl ⟨rfl, Nat.le_refl _⟩
      · refine Or.inr ⟨word, ?_, hne, hword, ?_⟩
        · rw [splitWhitespace_word hne fun char hmem => version.text_word char (hword.subset hmem),
            List.head?_cons]
        · rw [List.length_cons]
          exact Nat.succ_lt_succ (List.length_pos_of_ne_nil hne)
  | line rest =>
      refine Or.inr ⟨version.text, ?_, version.text_ne_nil, List.prefix_refl _, ?_⟩
      · rw [splitWhitespace_separator rfl,
          splitWhitespace_append version.text_ne_nil HttpVersion.text_word rfl, List.head?_cons]
      · rw [List.length_cons, List.length_append, List.length_cons]
        omega

end Behind

/-! ## What has been read -/

namespace HttpRequest

/-- The text that the server takes for the request, when `arrived` bytes of it are there
at its one read. -/
def received (request : HttpRequest) (arrived : Nat) : Text :=
  fromUtf8Lossy ((bytesOf request.text).take (min arrived bufferSize))

/-- What a text has in the place of the request's target. -/
def targetIn (request : HttpRequest) (read : Text) : Text :=
  (read.drop (request.method.length + 1)).take request.target.length

/-- What a text has behind the place of the request's target. -/
def behindIn (request : HttpRequest) (read : Text) : Text :=
  read.drop (request.method.length + 1 + request.target.length)

theorem lossyPrefix_received (request : HttpRequest) (arrived : Nat) :
    LossyPrefix (request.received arrived) request.text := lossyPrefix_take _ _

/-- A request that fits into the buffer and has arrived is read whole. -/
theorem received_eq_text (request : HttpRequest) {arrived : Nat}
    (harrived : (bytesOf request.text).length ≤ arrived)
    (hsize : (bytesOf request.text).length ≤ bufferSize) :
    request.received arrived = request.text := by
  rw [received, List.take_of_length_le (Nat.le_min.mpr ⟨harrived, hsize⟩)]
  exact fromUtf8Lossy_asBytes _

/-- A text that begins with the request's method, and ends in its target or behind it. -/
structure Opens (request : HttpRequest) (read : Text) : Prop where
  read_eq : read = request.method ++ ' ' :: (request.targetIn read ++ request.behindIn read)
  target : LossyPrefix (request.targetIn read) request.target
  whole : request.targetIn read = request.target ∨ request.behindIn read = []
  behind : Behind request.version (request.behindIn read)

theorem behind_of_lossyPrefix {request : HttpRequest} {behind : Text}
    (h : LossyPrefix behind request.behindTarget) : Behind request.version behind := by
  have hversion : ∀ char ∈ request.version.text, char.toNat < 0x80 := by
    have hascii : ("HTP/.0123456789".toList.all fun char => decide (char.toNat < 0x80)) = true := by
      decide
    exact fun char hmem =>
      of_decide_eq_true (List.all_eq_true.mp hascii char (HttpVersion.mem_text hmem))
  rw [behindTarget] at h
  cases h with
  | stop => exact .nothing
  | cut _ hchar => exact absurd hchar (by decide)
  | keep _ h =>
      rcases h.of_append with hpart | ⟨more, rfl, hmore⟩
      · exact .part (hpart.prefix_of_ascii hversion)
      · cases hmore with
        | stop =>
            rw [List.append_nil]
            exact .part (List.prefix_refl _)
        | cut _ hchar => exact absurd hchar (by decide)
        | keep => exact .line _

theorem targetIn_append (request : HttpRequest) (rest : Text) :
    request.targetIn (request.method ++ ' ' :: rest) = rest.take request.target.length := by
  rw [targetIn, List.drop_length_add_append, List.drop_one, List.tail_cons]

theorem behindIn_append (request : HttpRequest) (rest : Text) :
    request.behindIn (request.method ++ ' ' :: rest) = rest.drop request.target.length := by
  rw [behindIn, Nat.add_assoc, List.drop_length_add_append, Nat.add_comm, List.drop_succ_cons]

/-- A read ends in the method, or begins the target. -/
theorem opens_or_short {request : HttpRequest} {read : Text}
    (h : LossyPrefix read request.text) :
    request.Opens read ∨ LossyPrefix read request.method := by
  rcases h.of_append with hmethod | ⟨more, rfl, hmore⟩
  · exact Or.inr hmethod
  · cases hmore with
    | stop =>
        rw [List.append_nil]
        exact Or.inr (.refl _)
    | cut _ hchar => exact absurd hchar (by decide)
    | @keep _ rest _ hrest =>
        refine Or.inl ?_
        rcases hrest.of_append with htarget | ⟨behind, rfl, hbehind⟩
        · have htake : rest.take request.target.length = rest :=
            List.take_of_length_le htarget.length_le
          have hdrop : rest.drop request.target.length = [] :=
            List.drop_eq_nil_of_le htarget.length_le
          refine ⟨?_, ?_, Or.inr ?_, ?_⟩
          · rw [targetIn_append, behindIn_append, List.take_append_drop]
          · rwa [targetIn_append, htake]
          · rw [behindIn_append, hdrop]
          · rw [behindIn_append, hdrop]
            exact .nothing
        · refine ⟨?_, ?_, Or.inl ?_, ?_⟩
          · rw [targetIn_append, behindIn_append, List.take_append_drop]
          · rw [targetIn_append, List.take_left]
            exact .refl _
          · rw [targetIn_append, List.take_left]
          · rw [behindIn_append, List.drop_left]
            exact behind_of_lossyPrefix hbehind

theorem opens_of_mem {request : HttpRequest} {read : Text} (h : LossyPrefix read request.text)
    (hspace : ' ' ∈ read) : request.Opens read := by
  refine (opens_or_short h).resolve_right fun hmethod => ?_
  -- the method has no space, and a cut character is none
  rcases hmethod.mem hspace with hmem | hmem
  · exact not_mem_of_word request.method_word rfl hmem
  · exact absurd hmem (by decide)

theorem opens_of_targetIn {request : HttpRequest} {read : Text}
    (h : LossyPrefix read request.text) (htarget : request.targetIn read ≠ []) :
    request.Opens read := by
  refine (opens_or_short h).resolve_right fun hmethod => htarget ?_
  rw [targetIn, List.drop_eq_nil_of_le (Nat.le_succ_of_le hmethod.length_le), List.take_nil]

/-- What has been read of the target is a word. -/
theorem Opens.target_word {request : HttpRequest} {read : Text} (h : request.Opens read) :
    ∀ char ∈ request.targetIn read, isWhitespace char = false := by
  intro char hmem
  rcases h.target.mem hmem with hmem | rfl
  · exact request.target_word char hmem
  · decide

end HttpRequest

/-! ## What the server finds -/

section

variable {method target behind : Text}

/-- The target is the second word of the first line, whether or not this line has been
read to its end. -/
theorem parseRequestPath_append (hmethod : method ≠ [])
    (hmethodWord : ∀ char ∈ method, isWhitespace char = false) (htarget : target ≠ [])
    (htargetWord : ∀ char ∈ target, isWhitespace char = false)
    (hbehind : behind = [] ∨ ∃ rest, behind = ' ' :: rest) :
    parseRequestPath (method ++ ' ' :: (target ++ behind)) = some target := by
  have hline : ∀ {char : Char}, isWhitespace char = true → char ≠ ' ' →
      char ∉ method ++ ' ' :: target := by
    intro char hchar hspace
    simp only [List.mem_append, List.mem_cons, not_or]
    exact ⟨not_mem_of_word hmethodWord hchar, hspace, not_mem_of_word htargetWord hchar⟩
  have hne : method ++ ' ' :: target ≠ [] := List.append_ne_nil_of_left_ne_nil hmethod _
  have hsplit : method ++ ' ' :: (target ++ behind) = (method ++ ' ' :: target) ++ behind := by simp
  rw [parseRequestPath, hsplit,
    head?_lines_append hne (hline rfl (by decide)) (hline rfl (by decide)), Option.bind_some]
  rcases hbehind with rfl | ⟨rest, rfl⟩
  · have hnone : (lines []).head?.getD [] = ([] : Text) := rfl
    rw [hnone, List.append_nil, splitWhitespace_append hmethod hmethodWord rfl,
      splitWhitespace_word htarget htargetWord]
    rfl
  · have hspace := head?_lines_append (List.cons_ne_nil ' ' []) (by decide) (by decide) rest
    rw [List.singleton_append] at hspace
    rw [hspace, Option.getD_some, List.append_assoc, List.cons_append, List.singleton_append,
      splitWhitespace_append hmethod hmethodWord rfl,
      splitWhitespace_append htarget htargetWord rfl]
    rfl

theorem queryParam_append (hmethod : method ≠ [])
    (hmethodWord : ∀ char ∈ method, isWhitespace char = false) (htarget : target ≠ [])
    (htargetWord : ∀ char ∈ target, isWhitespace char = false)
    (hbehind : behind = [] ∨ ∃ rest, behind = ' ' :: rest) (key : Text) :
    queryParam (method ++ ' ' :: (target ++ behind)) key = queryOf target key := by
  rw [queryParam, parseRequestPath_append hmethod hmethodWord htarget htargetWord hbehind,
    Option.bind_some]

/-! ### The interface -/

theorem ifaceWord_eq_bind (request : Text) :
    ifaceWord request = (findAfter request "iface=".toList).bind fun after =>
      (splitWhitespace (upTo "iface=".toList after)).head? := by
  rw [ifaceWord, splitSecond, Option.bind_map]
  rfl

theorem ifaceText_of_word_eq_none {request : Text} (h : ifaceWord request = none) :
    ifaceText request = [] := by
  rw [ifaceText, h]
  rfl

theorem ifaceText_of_word {request word : Text} (h : ifaceWord request = some word)
    (hand : '&' ∉ word) (hspace : ' ' ∉ word) : ifaceText request = word := by
  rw [ifaceText, h, Option.bind_some, List.splitOn_eq_singleton hand, List.head?_cons,
    Option.bind_some, List.splitOn_eq_singleton hspace, List.head?_cons, Option.getD_some]

theorem nonEmpty_eq_none_iff {argument : Text} : nonEmpty argument = none ↔ argument = [] := by
  rw [nonEmpty, ite_eq_left_iff]
  simp

/-- The target has an `iface=` with a text behind it, or with nothing behind but a space;
or it has none, and no value is found for one behind the target either. -/
def IfaceIn (target behind : Text) : Prop :=
  match findAfter target "iface=".toList with
  | some after => after ≠ [] ∨ behind.length ≤ 1
  | none => ifaceText behind = []

/-- The value is that of the target if it has one, and else a part of the version. -/
theorem ifaceWord_of_findAfter {after : Text}
    (htarget : ∀ char ∈ target, isWhitespace char = false)
    (hbehind : behind = [] ∨ ∃ rest, behind = ' ' :: rest)
    (hafter : findAfter target "iface=".toList = some after) :
    ifaceWord (target ++ behind) =
      if after = [] then (splitWhitespace (upTo "iface=".toList behind)).head?
      else ifaceWord target := by
  have hne : "iface=".toList ≠ [] := by decide
  rw [ifaceWord_eq_bind, ifaceWord_eq_bind, findAfter_append_of_eq_some hne hafter, hafter,
    Option.bind_some, Option.bind_some]
  split
  · rename_i hempty
    rw [hempty, List.nil_append]
  · rename_i hsome
    rcases hbehind with rfl | ⟨rest, rfl⟩
    · rw [List.append_nil]
    · by_cases hinfix : "iface=".toList <:+: after
      · rw [upTo_append_of_occurs hne hinfix]
      · rw [upTo_append_separator hne (by decide) hinfix, upTo_of_not_occurs hne hinfix]
        have hword : ∀ char ∈ after, isWhitespace char = false := fun char hmem =>
          htarget char ((suffix_of_findAfter hafter).subset hmem)
        exact head?_splitWhitespace_append hsome hword rfl _

/-- The target does not have the parameter: it is looked for behind the target. -/
theorem ifaceWord_of_findAfter_eq_none (hbehind : behind = [] ∨ ∃ rest, behind = ' ' :: rest)
    (hafter : findAfter target "iface=".toList = none) :
    ifaceWord (target ++ behind) = ifaceWord behind := by
  have hne : "iface=".toList ≠ [] := by decide
  have hspace : ¬ "iface=".toList <:+: [] := by decide
  have htarget := (findAfter_eq_none hne).mp hafter
  rcases hbehind with rfl | ⟨rest, rfl⟩
  · rw [List.append_nil, ifaceWord_eq_bind, hafter]
    rfl
  · rw [ifaceWord_eq_bind, ifaceWord_eq_bind,
      findAfter_append_separator hne (by decide) htarget, ← List.nil_append (' ' :: _),
      findAfter_append_separator hne (by decide) hspace]

/-- The method and the space behind it are skipped. -/
theorem ifaceWord_get (rest : Text) : ifaceWord ("GET".toList ++ ' ' :: rest) = ifaceWord rest := by
  have hskip : 'i' ∉ "GET ".toList := by decide
  have hfound : findAfter ("GET ".toList ++ rest) "iface=".toList =
      findAfter rest "iface=".toList := findAfter_append_of_not_mem hskip
  rw [ifaceWord_eq_bind, ifaceWord_eq_bind]
  exact congrArg (Option.bind · _) hfound

theorem ifaceArgument_get_iff {version : HttpVersion}
    (htarget : ∀ char ∈ target, isWhitespace char = false) (hbehind : Behind version behind) :
    ifaceArgument ("GET".toList ++ ' ' :: (target ++ behind)) = ifaceArgument target ↔
      IfaceIn target behind := by
  rw [ifaceArgument, ifaceArgument, Arguments.iface.injEq]
  unfold IfaceIn
  have htext := ifaceWord_get (target ++ behind)
  cases hafter : findAfter target "iface=".toList with
  | some after =>
      rw [ifaceWord_of_findAfter htarget hbehind.separated hafter] at htext
      dsimp only
      by_cases hempty : after = []
      · have hnone : ifaceWord target = none := by
          rw [ifaceWord_eq_bind, hafter, hempty]
          rfl
        have hversion : 'i' ∉ version.text := not_mem_version (by decide)
        obtain ⟨hcut, hshort⟩ := hbehind.upTo (by decide : 'i' ∈ "iface=".toList) (by decide)
          hversion (by decide)
        rw [if_pos hempty] at htext
        rw [ifaceText_of_word_eq_none hnone, or_iff_right (not_not.mpr hempty), ← hshort]
        rcases hcut.head?_splitWhitespace with ⟨hword, hlength⟩ | ⟨word, hword, hne, hpart, hlength⟩
        · rw [ifaceText_of_word_eq_none (htext.trans hword)]
          exact iff_of_true rfl hlength
        · have hplain : ∀ {char : Char}, char ∉ "HTP/.0123456789".toList → char ∉ word :=
            fun hchar hmem => not_mem_version hchar (hpart.subset hmem)
          rw [ifaceText_of_word (htext.trans hword) (hplain (by decide)) (hplain (by decide))]
          exact iff_of_false (fun h => hne (nonEmpty_eq_none_iff.mp h)) (Nat.not_le.mpr hlength)
      · rw [if_neg hempty] at htext
        rw [ifaceText, htext]
        exact iff_of_true rfl (Or.inl hempty)
  | none =>
      rw [ifaceWord_of_findAfter_eq_none hbehind.separated hafter] at htext
      have hnone : ifaceWord target = none := by
        rw [ifaceWord_eq_bind, hafter]
        rfl
      rw [ifaceText_of_word_eq_none hnone, ifaceText, htext]
      exact nonEmpty_eq_none_iff

/-! ### The dissector -/

/-- The target has a question mark, or no name of a dissector is found behind it. -/
def NameIn (target behind : Text) : Prop :=
  '?' ∈ target ∨ dissectorName (dissectorQuery behind) = none

theorem dissectorName_of_not_mem {query : Text} (hand : '&' ∉ query) (hequals : '=' ∉ query) :
    dissectorName query = none := by
  rw [dissectorName, dissectorPairs, List.splitOn_eq_singleton hand, List.foldl_cons,
    List.foldl_nil, List.splitOn_eq_singleton hequals]
  rfl

/-- The target has a query: the pairs are those of the target, and a part of the version,
which is read instead of an empty query, has none. -/
theorem dissectorName_of_mem {version : HttpVersion}
    (htarget : ∀ char ∈ target, isWhitespace char = false) (hbehind : Behind version behind)
    (hmem : '?' ∈ target) :
    dissectorName (dissectorQuery ("GET".toList ++ ' ' :: (target ++ behind))) =
      dissectorName (dissectorQuery target) := by
  obtain ⟨path, query, rfl, hpath⟩ := List.eq_append_cons_of_mem hmem
  have hline : '?' ∉ "GET".toList ++ ' ' :: path := by simp [hpath]
  have htext : (("GET".toList ++ ' ' :: (path ++ '?' :: query ++ behind)).splitOn '?')[1]? =
      some ((query ++ behind).takeWhile (· != '?')) := by
    have hsplit : "GET".toList ++ ' ' :: (path ++ '?' :: query ++ behind) =
        ("GET".toList ++ ' ' :: path) ++ '?' :: (query ++ behind) := by
      simp
    rw [hsplit, splitOn_append_separator_one hline]
  rw [dissectorQuery, htext, dissectorQuery, splitOn_append_separator_one hpath, Option.bind_some,
    Option.bind_some]
  by_cases hsecond : '?' ∈ query
  · obtain ⟨first, more, rfl, hfirst⟩ := List.eq_append_cons_of_mem hsecond
    rw [List.append_assoc, List.cons_append, takeWhile_append_separator hfirst,
      takeWhile_append_separator hfirst]
  · rw [takeWhile_append_of_not_mem hsecond, takeWhile_of_not_mem hsecond]
    by_cases hempty : query = []
    · have hnone : dissectorName ((splitWhitespace []).head?.getD []) = none := by decide
      rw [hempty, List.nil_append, hnone]
      rcases hbehind.takeWhile.head?_splitWhitespace with ⟨hword, -⟩ | ⟨word, hword, -, hpart, -⟩
      · rw [hword, Option.getD_none]
        decide
      · have hplain : ∀ {char : Char}, char ∉ "HTP/.0123456789".toList → char ∉ word :=
          fun hchar hmem => not_mem_version hchar (hpart.subset hmem)
        rw [hword, Option.getD_some]
        exact dissectorName_of_not_mem (hplain (by decide)) (hplain (by decide))
    · have hword : ∀ char ∈ query, isWhitespace char = false := fun char hchar =>
        htarget char (List.mem_append_right _ (List.mem_cons_of_mem _ hchar))
      rcases hbehind.takeWhile.separated with hnone | ⟨rest, hrest⟩
      · rw [hnone, List.append_nil]
      · rw [hrest, head?_splitWhitespace_append hempty hword rfl]

/-- The target has no query: one is looked for behind the target. -/
theorem dissectorQuery_of_not_mem (hmem : '?' ∉ target) :
    dissectorQuery ("GET".toList ++ ' ' :: (target ++ behind)) = dissectorQuery behind := by
  have hline : '?' ∉ "GET".toList ++ ' ' :: target := by simp [hmem]
  have hsplit : "GET".toList ++ ' ' :: (target ++ behind) =
      ("GET".toList ++ ' ' :: target) ++ behind := by simp
  rw [dissectorQuery, hsplit, splitOn_append_one hline]
  rfl

theorem dissectorArgument_get_iff {version : HttpVersion}
    (htarget : ∀ char ∈ target, isWhitespace char = false) (hbehind : Behind version behind) :
    dissectorArgument ("GET".toList ++ ' ' :: (target ++ behind)) = dissectorArgument target ↔
      NameIn target behind := by
  rw [dissectorArgument, dissectorArgument, Arguments.dissector.injEq]
  by_cases hmem : '?' ∈ target
  · exact iff_of_true (dissectorName_of_mem htarget hbehind hmem) (Or.inl hmem)
  · have hnone : dissectorName (dissectorQuery target) = none := by
      rw [dissectorQuery, List.splitOn_eq_singleton hmem]
      rfl
    rw [hnone, dissectorQuery_of_not_mem hmem]
    exact (or_iff_right hmem).symm

end

end GeSensor.Server
