import FleetIdentity.Pki.Pem
import FleetIdentity.Proofs.Encoding.Base64
import FleetIdentity.Proofs.Text.Utf8

/-!
# Written blocks are read back

A block that was written, of whatever octets, is the first block of its text: the markers are found
where they were put, since neither the label nor a symbol has a dash, no empty line can be taken for
the end of headers, and the line ends fall out with the white space.
-/

namespace FleetIdentity

namespace Utf8

theorem ofString_append (s t : String) : ofString (s ++ t) = ofString s ++ ofString t := by
  rw [ofString, ofString, ofString, String.toList_append, encode, encode, encode,
    List.flatMap_append]

/-- The octet of a character of ASCII. -/
def asciiOctet (c : Char) : UInt8 :=
  UInt8.ofNat c.toNat

theorem encode_ascii {text : List Char} (ascii : ∀ c ∈ text, c.toNat < 128) :
    encode text = text.map asciiOctet := by
  induction text with
  | nil => rfl
  | cons c text ih =>
    have one : String.utf8EncodeChar c = [asciiOctet c] := by
      have small : c.val.toNat ≤ 0x7F := Nat.le_of_lt_succ (ascii c List.mem_cons_self)
      rw [String.utf8EncodeChar]
      simp only [if_pos small]
      rfl
    rw [encode, List.flatMap_cons, ← encode, ih fun d hd => ascii d (List.mem_cons_of_mem _ hd),
      one]
    rfl

theorem asciiOctet_inj {c d : Char} (hc : c.toNat < 128) (hd : d.toNat < 128)
    (same : asciiOctet c = asciiOctet d) : c = d := by
  have codes := congrArg UInt8.toNat same
  rw [asciiOctet, asciiOctet, UInt8.toNat_ofNat', UInt8.toNat_ofNat'] at codes
  have equal : c.toNat = d.toNat := by omega
  rw [← Char.ofNat_toNat c, equal, Char.ofNat_toNat]

end Utf8

namespace Pem

/-! ### Markers -/

variable {m : UInt8} {marker : Octets}

theorem splitFrom?_of_not_mem {front : Octets} (absent : m ∉ front) (before rest : Octets) :
    splitFrom? (m :: marker) (m :: marker) before (front ++ rest) =
      splitFrom? (m :: marker) (m :: marker) (front.reverse ++ before) rest := by
  induction front generalizing before with
  | nil => rfl
  | cons x front ih =>
    have other : x ≠ m := fun same => absent (same ▸ List.mem_cons_self)
    have later : m ∉ front := fun mem => absent (List.mem_cons_of_mem _ mem)
    rw [List.cons_append, splitFrom?, if_neg other, ih later, List.reverse_cons, List.append_assoc]
    rfl

theorem splitFrom?_marker (left before rest : Octets) :
    splitFrom? marker left before (left ++ rest) =
      some (((left.reverse ++ before).drop marker.length).reverse, rest) := by
  induction left generalizing before with
  | nil =>
    cases rest with
    | nil => rfl
    | cons x rest => rfl
  | cons x left ih =>
    rw [List.cons_append, splitFrom?, if_pos rfl, ih, List.reverse_cons, List.append_assoc]
    rfl

/-- A marker is found behind octets without its first one. -/
theorem splitAt?_append {text : String} (marker_eq : Utf8.ofString text = m :: marker)
    {front : Octets} (absent : m ∉ front) (rest : Octets) :
    splitAt? text (front ++ (Utf8.ofString text ++ rest)) = some (front, rest) := by
  rw [splitAt?, marker_eq, splitFrom?_of_not_mem absent, splitFrom?_marker, List.append_nil,
    List.drop_left' (by rw [List.length_reverse]), List.reverse_reverse]

theorem splitAt?_eq_none {text : String} (marker_eq : Utf8.ofString text = m :: marker)
    {octets : Octets} (absent : m ∉ octets) : splitAt? text octets = none := by
  have nothing : splitFrom? (m :: marker) (m :: marker) [] (octets ++ []) = _ :=
    splitFrom?_of_not_mem absent [] []
  rw [List.append_nil, List.append_nil] at nothing
  rw [splitAt?, marker_eq, nothing]
  rfl

/-! ### Lines of symbols -/

variable {fuel : Nat} {symbols : List Char}

theorem mem_wrap {c : Char} (h : c ∈ wrap fuel symbols) : c = '\n' ∨ c ∈ symbols := by
  induction fuel generalizing symbols with
  | zero => cases h
  | succ fuel ih =>
    cases symbols with
    | nil => cases h
    | cons first symbols =>
      rw [wrap] at h
      · rcases List.mem_append.1 h with h | h
        · exact .inr (List.mem_of_mem_take h)
        rcases List.mem_cons.1 h with rfl | h
        · exact .inl rfl
        · exact (ih h).imp_right List.mem_of_mem_drop
      · nofun

/-- Without white space the lines are the symbols again. -/
theorem filter_wrap (plain : ∀ c ∈ symbols, isBlankChar c = false)
    (enough : symbols.length ≤ fuel) :
    (wrap fuel symbols).filter (fun c => !isBlankChar c) = symbols := by
  induction fuel generalizing symbols with
  | zero =>
    rw [List.length_eq_zero_iff.1 (Nat.le_zero.1 enough)]
    rfl
  | succ fuel ih =>
    cases symbols with
    | nil => rfl
    | cons first symbols =>
      have line : ((first :: symbols).take 64).filter (fun c => !isBlankChar c) =
          (first :: symbols).take 64 := by
        refine List.filter_eq_self.2 fun c hc => ?_
        rw [plain c (List.mem_of_mem_take hc)]
        rfl
      have shorter : ((first :: symbols).drop 64).length ≤ fuel := by
        rw [List.length_drop]
        omega
      have newline : isBlankChar '\n' = true := by decide
      rw [wrap]
      · rw [List.filter_append, line, List.filter_cons, newline,
          ih (fun c hc => plain c (List.mem_of_mem_drop hc)) shorter]
        exact List.take_append_drop 64 _
      · nofun

theorem length_wrap_le : (wrap fuel symbols).length ≤ 2 * symbols.length := by
  induction fuel generalizing symbols with
  | zero => exact Nat.zero_le _
  | succ fuel ih =>
    cases symbols with
    | nil => exact Nat.zero_le _
    | cons first symbols =>
      have later : (wrap fuel ((first :: symbols).drop 64)).length ≤ _ := ih
      rw [List.length_drop] at later
      rw [wrap]
      · rw [List.length_append, List.length_take, List.length_cons (a := '\n')]
        rw [List.length_cons] at later ⊢
        omega
      · nofun

/-- No line is empty, so that no two newlines follow one another. The search may have seen one
newline already, as it has behind every line. -/
theorem splitFrom?_wrap (plain : ∀ c ∈ symbols, Utf8.asciiOctet c ≠ 10) {left : Octets}
    (state : left = [10, 10] ∨ left = [10]) (before : Octets) :
    splitFrom? [10, 10] left before ((wrap fuel symbols).map Utf8.asciiOctet) = none := by
  induction fuel generalizing symbols left before with
  | zero =>
    rcases state with rfl | rfl
    · rfl
    · rfl
  | succ fuel ih =>
    cases symbols with
    | nil =>
      rcases state with rfl | rfl
      · rfl
      · rfl
    | cons first symbols =>
      have other : Utf8.asciiOctet first ≠ 10 := plain first List.mem_cons_self
      have line : (10 : UInt8) ∉ (symbols.take 63).map Utf8.asciiOctet := by
        intro mem
        obtain ⟨c, hc, same⟩ := List.mem_map.1 mem
        exact plain c (List.mem_cons_of_mem _ (List.mem_of_mem_take hc)) same
      have opened : splitFrom? [10, 10] left before ((wrap (fuel + 1) (first :: symbols)).map
          Utf8.asciiOctet) = splitFrom? [10, 10] [10, 10] (Utf8.asciiOctet first :: before)
            ((symbols.take 63).map Utf8.asciiOctet ++
              10 :: (wrap fuel (symbols.drop 63)).map Utf8.asciiOctet) := by
        rw [wrap]
        · rw [List.take_succ_cons, List.drop_succ_cons, List.cons_append, List.map_cons,
            List.map_append, List.map_cons]
          rcases state with rfl | rfl
          · rw [splitFrom?, if_neg other]
            rfl
          · rw [splitFrom?, if_neg other]
            rfl
        · nofun
      rw [opened, splitFrom?_of_not_mem line, splitFrom?, if_pos rfl]
      exact ih (fun c hc => plain c (List.mem_cons_of_mem _ (List.mem_of_mem_drop hc))) (.inr rfl) _

/-! ### A whole block -/

/-- The symbols of octets in their lines, as octets. -/
def bodyOf (content : Octets) : Octets :=
  Utf8.encode (wrap (Base64.encode content).length (Base64.encode content))

theorem ascii_wrap (content : Octets) {c : Char} (h : c ∈ wrap fuel (Base64.encode content)) :
    c.toNat < 128 ∧ c ≠ '-' ∧ c ≠ '\r' := by
  rcases mem_wrap h with rfl | h
  · decide
  · obtain ⟨ascii, dash⟩ := Base64.ascii_of_mem_encode h
    refine ⟨ascii, dash, ?_⟩
    rintro rfl
    exact absurd (Base64.isBlankChar_of_mem_encode h) (by decide)

theorem bodyOf_eq_map (content : Octets) : bodyOf content =
    (wrap (Base64.encode content).length (Base64.encode content)).map Utf8.asciiOctet :=
  Utf8.encode_ascii fun _ hc => (ascii_wrap content hc).1

theorem not_mem_bodyOf (content : Octets) {c : Char} (ascii : c.toNat < 128)
    (absent : ∀ fuel, c ∉ wrap fuel (Base64.encode content)) :
    Utf8.asciiOctet c ∉ bodyOf content := by
  rw [bodyOf_eq_map]
  intro mem
  obtain ⟨d, hd, same⟩ := List.mem_map.1 mem
  obtain rfl := Utf8.asciiOctet_inj (ascii_wrap content hd).1 ascii same
  exact absent _ hd

theorem splitHeaders_bodyOf (content : Octets) :
    splitHeaders (bodyOf content) = ([], bodyOf content) := by
  have plain : ∀ c ∈ Base64.encode content, Utf8.asciiOctet c ≠ 10 := by
    intro c hc same
    obtain rfl : c = '\n' :=
      Utf8.asciiOctet_inj (Base64.ascii_of_mem_encode hc).1 (by decide) same
    exact absurd (Base64.isBlankChar_of_mem_encode hc) (by decide)
  have no_empty_line : splitAt? "\n\n" (bodyOf content) = none := by
    rw [bodyOf_eq_map]
    exact splitFrom?_wrap plain (.inl rfl) []
  have returns : Utf8.ofString "\r\n\r\n" = Utf8.asciiOctet '\r' :: [10, 13, 10] := by decide
  have no_return : splitAt? "\r\n\r\n" (bodyOf content) = none :=
    splitAt?_eq_none returns
      (not_mem_bodyOf content (by decide) fun _ hc => (ascii_wrap content hc).2.2 rfl)
  rw [splitHeaders, no_empty_line, no_return]
  rfl

theorem decode?_bodyOf (content : Octets) :
    ∃ data, Utf8.decode? (bodyOf content) = some data ∧
      Base64.decode? (data.filter fun c => !isBlankChar c) = some content := by
  refine ⟨_, Utf8.decode?_encode _, ?_⟩
  rw [filter_wrap (fun _ => Base64.isBlankChar_of_mem_encode) (Nat.le_refl _)]
  exact Base64.decode?_encode content

/-- The newline of the first line is all the space in front of the symbols. -/
theorem dropWhile_bodyOf (content : Octets) (rest : Octets) :
    (10 :: (bodyOf content ++ 0x2D :: rest)).dropWhile isSpace =
      bodyOf content ++ 0x2D :: rest := by
  have newline : isSpace 10 = true := by decide
  rw [List.dropWhile_cons_of_pos newline, bodyOf_eq_map]
  cases symbols : Base64.encode content with
  | nil => exact List.dropWhile_cons_of_neg (by decide)
  | cons c symbols' =>
    have each : ∀ n < 64, isSpace (Utf8.asciiOctet (Base64.symbol n)) = false := by decide
    have plain : isSpace (Utf8.asciiOctet c) = false := by
      have mem : c ∈ Base64.encode content := symbols ▸ List.mem_cons_self
      rcases Base64.mem_encode mem with rfl | ⟨n, small, rfl⟩
      · decide
      · exact each n small
    rw [List.length_cons, wrap]
    · exact List.dropWhile_cons_of_neg (by rw [plain]; decide)
    · nofun

theorem ofString_write (block : PemBlock) : Utf8.ofString (write block) =
    [] ++ (Utf8.ofString "-----BEGIN " ++ (Utf8.ofString block.label ++ (Utf8.ofString "-----" ++
      (10 :: (bodyOf block.content ++ (Utf8.ofString "-----END " ++ (Utf8.ofString block.label ++
        (Utf8.ofString "-----" ++ [10])))))))) := by
  have opening : Utf8.ofString "-----\n" = Utf8.ofString "-----" ++ [10] := by decide
  have symbols (text : List Char) : Utf8.ofString (String.ofList text) = Utf8.encode text := by
    rw [Utf8.ofString, String.toList_ofList]
  show Utf8.ofString (("-----BEGIN " ++ block.label ++ "-----\n") ++ String.ofList
    (wrap (Base64.encode block.content).length (Base64.encode block.content)) ++
      ("-----END " ++ block.label ++ "-----\n")) = _
  simp only [Utf8.ofString_append, opening, symbols, List.append_assoc, List.singleton_append,
    List.nil_append]
  rfl

theorem lines_empty : lines "" = [] := by
  have one : "".splitOn "\n" = [""] := by
    rw [String.splitOn, if_neg (by decide), String.splitOnAux]
    rfl
  rw [lines, one]
  rfl

/-- A written block is the first block of its text. -/
theorem parse?_write (block : PemBlock) (named : block.label ≠ "")
    (dash : 0x2D ∉ Utf8.ofString block.label) :
    parse? (Utf8.ofString (write block)) = some block := by
  have begins : Utf8.ofString "-----BEGIN " = 0x2D :: Utf8.ofString "----BEGIN " := by decide
  have dashes : Utf8.ofString "-----" = 0x2D :: Utf8.ofString "----" := by decide
  have ends : Utf8.ofString "-----END " = 0x2D :: Utf8.ofString "----END " := by decide
  have body : 0x2D ∉ bodyOf block.content :=
    not_mem_bodyOf block.content (c := '-') (by decide) fun _ hc => (ascii_wrap _ hc).2.1 rfl
  have label : label? (Utf8.ofString block.label) = some block.label := by
    have not_empty : block.label.isEmpty = false := by
      simpa using named
    rw [label?, Utf8.toString?, Utf8.ofString, Utf8.decode?_encode, Option.map_some,
      String.ofList_toList]
    simp only [Option.bind_eq_bind, Option.bind_some, not_empty]
    rfl
  obtain ⟨data, decoded, read⟩ := decode?_bodyOf block.content
  rw [ofString_write, parse?, splitAt?_append begins List.not_mem_nil]
  simp only [Option.bind_eq_bind, Option.bind_some]
  rw [splitAt?_append dashes dash]
  simp only [Option.bind_some]
  rw [ends, List.cons_append, dropWhile_bodyOf, ← List.cons_append, ← ends,
    splitAt?_append ends body]
  simp only [Option.bind_some]
  rw [splitAt?_append dashes dash]
  simp only [Option.bind_some, label, splitHeaders_bodyOf, decoded, read]
  rw [if_neg fun other => other rfl]
  show (if (lines "").all _ = true then _ else _) = _
  rw [lines_empty]
  rfl

theorem parse?_encodeCertificate (der : Octets) :
    parse? (Utf8.ofString (encodeCertificate der)) = some ⟨certificateLabel, der⟩ :=
  parse?_write ⟨certificateLabel, der⟩ (show certificateLabel ≠ "" by decide)
    (show 0x2D ∉ Utf8.ofString certificateLabel by decide)

theorem parse?_encodeKey (der : Octets) :
    parse? (Utf8.ofString (encodeKey der)) = some ⟨privateKeyLabel, der⟩ :=
  parse?_write ⟨privateKeyLabel, der⟩ (show privateKeyLabel ≠ "" by decide)
    (show 0x2D ∉ Utf8.ofString privateKeyLabel by decide)

/-- The text of a block is longer than its octets. -/
theorem length_le_write (block : PemBlock) :
    block.content.length ≤ (Utf8.ofString (write block)).length := by
  have symbols : (Base64.encode block.content).length ≤ (bodyOf block.content).length := by
    have kept := List.length_filter_le (fun c => !isBlankChar c)
      (wrap (Base64.encode block.content).length (Base64.encode block.content))
    rw [filter_wrap (fun _ => Base64.isBlankChar_of_mem_encode) (Nat.le_refl _)] at kept
    rw [bodyOf_eq_map, List.length_map]
    exact kept
  have octets := Base64.length_le_encode block.content
  rw [ofString_write]
  simp only [List.length_append, List.length_cons]
  omega

/-- The text of a block is at most eight times as long as its octets, besides its two markers. -/
theorem length_write_le (block : PemBlock) : (Utf8.ofString (write block)).length ≤
    8 * block.content.length + 2 * (Utf8.ofString block.label).length + 32 := by
  have symbols := Base64.length_encode_le block.content
  have lines : (bodyOf block.content).length ≤ 2 * (Base64.encode block.content).length := by
    rw [bodyOf_eq_map, List.length_map]
    exact length_wrap_le
  have opening : (Utf8.ofString "-----BEGIN ").length = 11 := by decide
  have closing : (Utf8.ofString "-----END ").length = 9 := by decide
  have dashes : (Utf8.ofString "-----").length = 5 := by decide
  rw [ofString_write]
  simp only [List.length_append, List.length_cons, List.length_nil, opening, closing, dashes]
  omega

end Pem

end FleetIdentity
