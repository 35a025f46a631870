import LwipExt.Http.RestResponse
import LwipExt.UdpCmd.FrameText

/-!
Dynamic pages: the printers and handlers of `extHttpWebPages.c`, and the result page of
`extHttpPost.c`.

The number of bytes of a page is printed over the three digits and the space of a header that is
already there. `snprintf` stores a NUL behind them, so the header of every page has one, and the
number of digits is added to the length (`pages_malformed`). The pages of `Http.Post` are those
printed here as long as they fit their arrays (`printPage_fits`).
-/

namespace LwipExt.Http

open UdpCmd

/-! ### The pages -/

/-- What a build tells of itself: `EXT_OS_NAME`, `EXT_VERSION_STRING`, `BUILD_DATE_TIME` and what
`extFgpaReadVersion` returns. -/
structure BuildTexts where
  osName : Bytes := []
  version : Bytes := []
  dateTime : Bytes := []
  fpga : Bytes := []

/-- `STR_BOOL_VALUE`. -/
def strBoolValue (value : UInt8) : Bytes := if value = 0 then str "NO" else str "YES"

/-- The title of a section and the start of its fields. -/
def pageSection (title : String) : Bytes :=
  str "<DIV class=\"title\"><H2>" ++ str title ++ str "</H2></DIV><DIV class=\"fields-info\">"

/-- The label of a field; some have a blank at the end of the tag. -/
def pageLabel (label : String) (gap : String) : Bytes :=
  str "<DIV class=\"field\"><LABEL >" ++ str label ++ str ":</LABEL><DIV class=\"label\"" ++
    str gap ++ str ">"

/-- A field. -/
def pageField (label : String) (gap : String) (value : Bytes) : Bytes :=
  pageLabel label gap ++ value ++ str "</DIV></DIV>"

/-- `TX` or `RX`. -/
def txOrRx (runCfg : RuntimeCfg) : Bytes := if extIsTx runCfg then str "TX" else str "RX"

/-- `__extHttpWebPageReboot`. -/
def rebootTexts : List Bytes :=
  [str "<DIV class=\"title\"><H2>Reboot</H2></DIV>",
    str "<DIV class=\"fields-info\"><DIV class=\"field\"><DIV>Waiting.....</DIV></DIV></DIV>"]

/-- `__extHttpWebPageMedia`. -/
def mediaTexts (runCfg : RuntimeCfg) : List Bytes :=
  let rt := runCfg.runtime
  [pageSection "Video/Audio" ++ pageField "Multicast" "" (strBoolValue runCfg.isMCast),
    pageField "Media IP Address" " " (inetNtoa runCfg.dest.ip),
    pageField "Video Port" "" (decimal runCfg.dest.vport.toNat),
    pageField "Audio Port" "" (decimal runCfg.dest.aport.toNat),
    pageField "Data Port" "" (decimal runCfg.dest.dport.toNat),
    pageField "Stream Port" "" (decimal runCfg.dest.sport.toNat),
    pageField "Resolution" "" (decimal rt.vWidth.toNat ++ str " x " ++ decimal rt.vHeight.toNat),
    pageField "Frame Rate" " " (decimal rt.vFrameRate.toNat),
    pageField "Color Depth" " " (decimal rt.vDepth.toNat),
    pageField "Color Space" " " (extCmnStringFind videoColorSpaces rt.vColorSpace.toUInt16),
    pageField "Audio Frequency" " " (decimal rt.aSampleRate.toNat),
    pageField "Audio Bitrate" " " (decimal rt.aDepth.toNat),
    pageField "Audio Channels" " " (decimal rt.aChannels.toNat),
    str "</DIV></DIV>"]

/-- `__extHttpWebPageInfo`, ARM build. -/
def infoTexts (build : BuildTexts) (runCfg : RuntimeCfg) : List Bytes :=
  [pageSection "Device" ++ pageField "Product Name" "" ext767ProductName,
    pageField "Model" "" (ext767Model ++ str "-" ++ txOrRx runCfg) ++ crlf,
    pageField "Custom Name" " " (cstr runCfg.name),
    pageField "Firmware Version" "" (build.version ++ str "(Build " ++ build.dateTime ++ str ")"),
    pageField "FPGA Version" "" build.fpga,
    str "</DIV>",
    pageSection "Settings" ++ pageLabel "MAC Address" " ",
    macAddressPrint runCfg.localCfg.mac,
    str "</DIV></DIV>",
    pageField "IP Address" " " (inetNtoa runCfg.localCfg.ip),
    str " " ++ pageField "Subnet Mask" " " (inetNtoa runCfg.ipMask),
    str " " ++ pageField "Gateway" " " (inetNtoa runCfg.ipGateway),
    str " " ++ pageField "DHCP" " " (strBoolValue runCfg.netMode),
    str " " ++ pageField "Dipswitch" " " (strBoolValue runCfg.isDipOn) ++ str "</DIV>",
    pageSection "RS232" ++ pageField "Baudrate" "" (decimalSigned runCfg.rs232Cfg.baudRate),
    pageField "Databits" "" (decimal runCfg.rs232Cfg.charLength.toNat),
    pageField "Parity" ""
      (extCmnStringFind ipcmdStringRsParities runCfg.rs232Cfg.parityType.toUInt16),
    pageField "Stopbits" "" (decimal runCfg.rs232Cfg.stopbits.toNat),
    str "</DIV></DIV>"]

/-- A link of the root page that loads a document. -/
def pageLink (attributes uri name : String) : Bytes :=
  str "<a " ++ str attributes ++ str " class=\"\" href=\"JavaScript:load_http_doc('" ++ str uri ++
    str "', 'content','')\">" ++ str name ++ str "</a>"

/-- The script of the root page. -/
def rootScript : List Bytes :=
  [str "<SCRIPT type=\"text/javascript\">function submit_firmware(chip)\t\x7b " ++
      str "var form = document.getElementById('formFirmware'); ",
    str "var formData = new FormData(form);xhr = new XMLHttpRequest();" ++
      str "xhr.open('POST', chip);xhr.send(formData);",
    str "document.getElementById('content').innerHTML = '<img src=\"/loading.gif\" />';",
    str "xhr.onload = function()\x7bif (xhr.status !== 200) \x7b" ++
      str "alert('Request failed.  Returned status of ' + xhr.status);\x7d " ++
      str "else\x7bdocument.getElementById('content').innerHTML=xhr.responseText;\x7d\x7d;\x7d",
    str " function reboot_device()\x7bvar response = confirm(\"Do you want to reboot?\"); " ++
      str "if (response)\x7b load_http_doc('/reboot', 'content',''); " ++
      str "setTimeout(function()\x7bwindow.location.reload(1);\x7d, 3000); \x7d \x7d",
    str "</SCRIPT></BODY></HTML>"]

/-- `__extHttpWebPageRoot`. -/
def rootTexts (build : BuildTexts) (runCfg : RuntimeCfg) : List Bytes :=
  [str "<HTML><HEAD><TITLE>Muxlab " ++ txOrRx runCfg ++ str "-500767</TITLE>",
    str "<LINK href=\"/styles.css\" type=\"text/css\" rel=\"stylesheet\">" ++
      str "<SCRIPT type=\"text/javascript\" src=\"/load_html.js\"></SCRIPT></HEAD>" ++ crlf,
    str "<BODY onload=\"JavaScript:load_http_doc('/info', 'content','')\"><DIV id=\"body\">" ++
      str "<DIV id=\"header\"><a id=\"logo\" href=\"/\">" ++
      str "<img alt=\"Muxlab Control Panel\" src=\"/logo.jpg\"></a><br />",
    str "<div data-text=\"dt_productName\" id=\"id_mainProductName\">500767-" ++ txOrRx runCfg ++
      str "-UTP 3G-SDI/ST2110 over IP Uncompressed Extender " ++ txOrRx runCfg ++
      str ", UTP</div></DIV>",
    str "<DIV id=\"nav\">" ++ pageLink "data-text=\"Info\" id=\"nav_info\"" "/info" "Info",
    pageLink "id=\"nav_media\"" "/media" "Media",
    pageLink "id=\"nav_upgrade_mcu\"" "/upgradeMcu.html" "Upgrade MCU",
    pageLink "id=\"nav_upgrade_fpga\"" "/upgradeFpga.html" "Upgrade FPGA",
    str "<a id=\"nav_upgrade_fpga\" class=\"\" href=\"JavaScript:reboot_device()\">Reboot</a></DIV>",
    str "<DIV id=\"message\"></DIV><DIV id=\"content\"></DIV><DIV id=\"footer\">" ++
      str "&copy; MuxLab Inc. " ++ build.osName ++ str "</DIV></DIV>"] ++ rootScript

/-- What the page prints behind its header. -/
def WebPage.texts (build : BuildTexts) (runCfg : RuntimeCfg) : WebPage → List Bytes
  | .root => rootTexts build runCfg
  | .info => infoTexts build runCfg
  | .media => mediaTexts runCfg
  | .reboot => rebootTexts

/-- The texts of `__extHttpWebPagePrintHeader` and `__httpWebPagePrintHeader`. -/
def webPageHeaderTexts : List Bytes :=
  [str "HTTP/1.0 200 OK" ++ crlf, str "Server: MuxLab/500767" ++ crlf,
    str "Content-type: text/html" ++ crlf, str "Content-Length: 955 " ++ crlfcrlf]

/-- A page is printed into an array of `size` bytes, and its length is recorded. -/
def printPage (size : Nat) (data : Bytes) (texts : List Bytes) : Bytes × Nat :=
  let (data, headerLength) := printTexts 0 size 0 data webPageHeaderTexts
  let (data, contentLength) := printTexts headerLength (size - headerLength : Int) 0 data texts
  let data := bufWrite data (headerLength - 8) (snprintf 5 (decimal contentLength) ++ [0])
  let index := headerLength + (decimal contentLength).length
  (data, u16 (index + contentLength))

/-- `extHttpWebPageRootHander`, `_extHttpWebPageInfoHander`, `_extHttpWebPageMediaHander` and
`_extHttpWebPageReboot`. -/
def webPageHander (build : BuildTexts) (runCfg : RuntimeCfg) (page : WebPage)
    (mhc : ExtHttpConn) : ExtHttpConn :=
  let (data, length) := printPage maxReqLength mhc.data (page.texts build runCfg)
  { mhc with
    data := data, contentLength := length, dataSendIndex := 0, httpStatusCode := webResRequestOk }

/-- What `extHttpWebPageResult` prints behind the header. -/
def resultText (title msg : Bytes) : Bytes :=
  str "<DIV class=\"title\"><H2>" ++ title ++
    str "</H2></DIV><DIV class=\"fields-info\"><DIV class=\"field\"><LABEL >Result:" ++ msg ++
    str "</LABEL></DIV></DIV>"

/-- What `_updatePageResult` prints behind the header. -/
def updateResultText (title msg : Bytes) : Bytes :=
  str "<DIV class=\"title\"><H2>" ++ title ++ str "</H2></DIV>Result:" ++ msg ++
    str ". Please reboot system</DIV>"

/-- The page of `extHttpWebPageResult`, in cleared memory. -/
def resultPage (title msg : Bytes) : Bytes × Nat :=
  printPage maxReqLength [] [resultText title msg]

/-- The page of `_updatePageResult`, in cleared memory. -/
def updateResultPage (title msg : Bytes) : Bytes × Nat :=
  printPage updateProgressSize [] [updateResultText title msg]

/-! ### Well-formed responses -/

/-- The memory holds a header of lines without NUL and the body, and no more is recorded. -/
def WellFormedPage (page : Bytes × Nat) (body : Bytes) : Prop :=
  ∃ (lines : List Bytes) (blanks : Nat), (∀ line ∈ lines, 0 ∉ line) ∧
    str "Content-Length: " ++ decimal body.length ++ List.replicate blanks 32 ∈ lines ∧
    bufRead page.1 0 page.2 = lines.flatMap (· ++ crlf) ++ crlf ++ body

/-- Texts that a buffer holds at one place begin alike. -/
theorem holds_comparable {buf text text' : Bytes} {off : Nat} (holds : Holds buf off text)
    (holds' : Holds buf off text') : text <+: text' ∨ text' <+: text := by
  rw [← holds.read, ← holds'.read]
  rcases Nat.le_total text.length text'.length with le | le
  · rw [← take_bufRead buf off le]
    exact .inl (List.take_prefix _ _)
  · rw [← take_bufRead buf off le]
    exact .inr (List.take_prefix _ _)

/-- The lines of a header end in an empty line. -/
theorem lines_end {lines : List Bytes} (some : lines ≠ []) :
    crlfcrlf <:+ lines.flatMap (· ++ crlf) ++ crlf := by
  rw [← List.dropLast_concat_getLast some, List.flatMap_append, List.flatMap_singleton,
    ← List.append_assoc, List.append_assoc]
  exact List.suffix_append _ _

theorem lines_noZero {lines : List Bytes} (noZero : ∀ line ∈ lines, 0 ∉ line) :
    0 ∉ lines.flatMap (· ++ crlf) ++ crlf := by
  have none : 0 ∉ crlf := by decide
  intro mem
  rcases List.mem_append.mp mem with mem | mem
  · obtain ⟨line, isLine, mem⟩ := List.mem_flatMap.mp mem
    rcases List.mem_append.mp mem with mem | mem
    · exact noZero line isLine mem
    · exact none mem
  · exact none mem

/-- A response with a NUL before its first empty line is not well formed. -/
theorem not_wellFormed_of_nul {page : Bytes × Nat} {start : Bytes}
    (holds : Holds page.1 0 (start ++ [0])) (noEnd : ¬ crlfcrlf <:+: start) (body : Bytes) :
    ¬ WellFormedPage page body := by
  rintro ⟨lines, blanks, noZero, contentLength, whole⟩
  have length : page.2 = (lines.flatMap (· ++ crlf) ++ crlf ++ body).length := by
    rw [← whole, length_bufRead]
  have all : Holds page.1 0 (lines.flatMap (· ++ crlf) ++ crlf ++ body) := by
    intro i lt
    rw [← whole, getD_bufRead _ _ (length ▸ lt)]
  have inside := lines_end (List.ne_nil_of_mem contentLength)
  have noZero := lines_noZero noZero
  rcases holds_comparable all.parts.1 holds with header | header
  · rcases List.prefix_concat_iff.mp header with same | header
    · exact noZero (same ▸ List.mem_append_right _ (List.mem_singleton_self 0))
    · exact noEnd (inside.isInfix.trans header.isInfix)
  · exact noZero (header.subset (List.mem_append_right _ (List.mem_singleton_self 0)))

/-! ### What is printed -/

theorem printAt_keeps {buf text : Bytes} {off at_ : Nat} (holds : Holds buf off text)
    (before : off + text.length ≤ at_) (room : Int) (printed : Bytes) :
    Holds (printAt buf at_ room printed) off text := by
  unfold printAt
  split
  · exact holds
  split
  · exact holds.kept (.inl before)
  · exact holds.kept (.inl before)

/-- Texts leave alone what lies before them, fitting or not. -/
theorem printTexts_keeps {buf text : Bytes} {off base index : Nat} {size : Int}
    (texts : List Bytes) (holds : Holds buf off text) (before : off + text.length ≤ base + index) :
    Holds (printTexts base size index buf texts).1 off text := by
  induction texts generalizing buf index with
  | nil => exact holds
  | cons printed texts ih =>
      exact ih (printAt_keeps holds before _ printed) (by omega)

theorem webPageHeaderTexts_flatten : webPageHeaderTexts.flatten = webPageHeader := rfl

/-- The header of a page as it is printed first, up to the length. -/
def webPageStart : Bytes := webPageHeader.take (webPageHeader.length - 8)

/-- The header of a page ends with a NUL behind the digits of its length. -/
theorem printPage_holds {size : Nat} (room : webPageHeader.length < size) (data : Bytes)
    (texts : List Bytes) :
    ∃ length, Holds (printPage size data texts).1 0
      (webPageStart ++ (decimal length).take 4 ++ [0]) := by
  have fits : ((0 : Nat) : Int) + webPageHeaderTexts.flatten.length < size := by
    rw [webPageHeaderTexts_flatten]
    omega
  obtain ⟨index, header, -⟩ := @printTexts_fits 0 0 size data webPageHeaderTexts fits
  unfold printPage
  simp only
  generalize printTexts 0 size 0 data webPageHeaderTexts = printed at index header ⊢
  obtain ⟨buf, headerLength⟩ := printed
  rw [webPageHeaderTexts_flatten] at index header
  simp only [Nat.zero_add] at index header
  subst index
  have kept := @printTexts_keeps buf webPageHeader 0 webPageHeader.length 0
    (size - webPageHeader.length) texts header (Nat.zero_add _).le
  simp only
  generalize printTexts webPageHeader.length (size - webPageHeader.length) 0 buf texts = printed
    at kept ⊢
  obtain ⟨buf, contentLength⟩ := printed
  refine ⟨contentLength, ?_⟩
  have start : webPageHeader = webPageStart ++ webPageHeader.drop (webPageHeader.length - 8) :=
    (List.take_append_drop _ _).symm
  have length : webPageStart.length = webPageHeader.length - 8 := by decide
  have held : Holds buf 0 (webPageStart ++ webPageHeader.drop (webPageHeader.length - 8)) :=
    start ▸ kept
  rw [List.append_assoc]
  refine (held.parts.1.kept (.inl ?_)).append ?_
  · rw [length, Nat.zero_add]
  · rw [length, Nat.zero_add]
    have written := Holds.written buf (webPageHeader.length - 8)
      ((decimal contentLength).take 4 ++ [0]) []
    rwa [List.append_nil] at written

/-- A copy into a text that the buffer holds. -/
theorem holds_bufWrite {buf text src : Bytes} {off : Nat} (holds : Holds buf 0 text)
    (inside : off + src.length ≤ text.length) :
    Holds (bufWrite buf off src) 0 (bufWrite text off src) := by
  intro i lt
  rw [length_bufWrite, max_eq_left inside] at lt
  have same := holds i lt
  rw [Nat.zero_add] at same ⊢
  rw [getD_bufWrite_eq, getD_bufWrite_eq, same]

/-- A page that fits its array is header and content with the length printed over the header. -/
theorem printPage_fits {size : Nat} {texts : List Bytes}
    (fits : webPageHeader.length + texts.flatten.length < size) (data : Bytes) :
    Holds (printPage size data texts).1 0 (webPage texts.flatten).1 ∧
      (printPage size data texts).2 = (webPage texts.flatten).2 := by
  obtain ⟨index, header, -⟩ := @printTexts_fits 0 0 size data webPageHeaderTexts
    (by rw [webPageHeaderTexts_flatten]; omega)
  unfold printPage webPage
  simp only
  generalize printTexts 0 size 0 data webPageHeaderTexts = printed at index header ⊢
  obtain ⟨buf, headerLength⟩ := printed
  rw [webPageHeaderTexts_flatten] at index header
  simp only [Nat.zero_add] at index header
  subst index
  obtain ⟨length, body, kept⟩ := @printTexts_fits webPageHeader.length 0
    (size - webPageHeader.length) buf texts (by omega)
  have header := kept 0 webPageHeader (Nat.zero_add _).le header
  simp only
  generalize printTexts webPageHeader.length (size - webPageHeader.length) 0 buf texts = printed
    at length body header ⊢
  obtain ⟨buf, contentLength⟩ := printed
  simp only [Nat.zero_add, Nat.add_zero] at length body header ⊢
  subst length
  refine ⟨holds_bufWrite (header.append (by rwa [Nat.zero_add])) ?_, rfl⟩
  have digits := List.length_take_le (5 - 1) (decimal texts.flatten.length)
  have long : 8 ≤ webPageHeader.length := by decide
  rw [List.length_append, List.length_append, List.length_singleton, snprintf]
  omega

/-- What `extHttpWebPageResult` leaves, if it fits. -/
theorem extHttpWebPageResult_page {title msg : Bytes} (mhc : ExtHttpConn)
    (fits : webPageHeader.length + (resultText title msg).length < maxReqLength) :
    Holds (resultPage title msg).1 0 (extHttpWebPageResult mhc title msg).data ∧
      (resultPage title msg).2 = (extHttpWebPageResult mhc title msg).contentLength := by
  have page := @printPage_fits maxReqLength [resultText title msg]
    (by rw [List.flatten_singleton]; exact fits) []
  rw [List.flatten_singleton] at page
  exact page

/-- What `_updatePageResult` leaves, if it fits. -/
theorem updatePageResult_page {title msg : Bytes} (mhc : ExtHttpConn)
    (fits : webPageHeader.length + (updateResultText title msg).length < updateProgressSize) :
    Holds (updateResultPage title msg).1 0 (updatePageResult mhc title msg).updateProgress ∧
      (updateResultPage title msg).2 = (updatePageResult mhc title msg).updateLength := by
  have page := @printPage_fits updateProgressSize [updateResultText title msg]
    (by rw [List.flatten_singleton]; exact fits) []
  rw [List.flatten_singleton] at page
  exact page

/-! ### Pages that are not well formed -/

/-- No header ends before its length. -/
theorem start_noEnd (length : Nat) : ¬ crlfcrlf <:+: webPageStart ++ (decimal length).take 4 := by
  rintro ⟨before, behind, split⟩
  rcases List.append_eq_append_iff.mp split with ⟨rest, first, -⟩ | ⟨rest, first, second⟩
  · have inside : crlfcrlf <:+: webPageStart := ⟨before, rest, first.symm⟩
    revert inside
    decide +kernel
  · -- What is left of the end of the header would stand among the digits.
    rcases List.eq_nil_or_concat rest with rfl | ⟨others, b, rfl⟩
    · rw [List.append_nil] at first
      have inside : crlfcrlf <:+: webPageStart := ⟨before, [], by rw [List.append_nil, first]⟩
      revert inside
      decide +kernel
    · have last : b = 10 := by
        have ends := congrArg List.getLast? first
        simpa [crlfcrlf, ← List.append_assoc] using ends.symm
      have digit : b ∈ decimal length := by
        refine List.mem_of_mem_take (i := 4) ?_
        rw [second, List.concat_eq_append, List.append_assoc]
        exact List.mem_append_right _ List.mem_cons_self
      have bounds := (decimal_digit digit).1
      rw [last] at bounds
      revert bounds
      decide

/-- **A page is never well formed**, whatever is printed. -/
theorem printPage_malformed {size : Nat} (room : webPageHeader.length < size) (data : Bytes)
    (texts : List Bytes) (body : Bytes) : ¬ WellFormedPage (printPage size data texts) body := by
  obtain ⟨length, holds⟩ := printPage_holds room data texts
  exact not_wellFormed_of_nul holds (start_noEnd length) body

theorem webPageHander_malformed (build : BuildTexts) (runCfg : RuntimeCfg) (page : WebPage)
    (mhc : ExtHttpConn) :
    ¬ WellFormedPage ((webPageHander build runCfg page mhc).data,
      (webPageHander build runCfg page mhc).contentLength) (page.texts build runCfg).flatten :=
  printPage_malformed (by decide) mhc.data (page.texts build runCfg) _

/-- **No web page is a well-formed response.** -/
theorem pages_malformed (build : BuildTexts) (runCfg : RuntimeCfg) (page : WebPage)
    (mhc : ExtHttpConn) (title msg : Bytes) (texts : List Bytes) :
    ¬ WellFormedPage (printPage maxReqLength mhc.data texts) texts.flatten ∧
      ¬ WellFormedPage ((webPageHander build runCfg page mhc).data,
        (webPageHander build runCfg page mhc).contentLength) (page.texts build runCfg).flatten ∧
      ¬ WellFormedPage (resultPage title msg) (resultText title msg) ∧
      ¬ WellFormedPage (updateResultPage title msg) (updateResultText title msg) := by
  have room : webPageHeader.length < maxReqLength := by decide
  refine ⟨?_, ?_, ?_, ?_⟩
  · exact printPage_malformed room _ _ _
  · exact webPageHander_malformed build runCfg page mhc
  · exact printPage_malformed room _ _ _
  · exact printPage_malformed (by decide) _ _ _

/-- The page of `/reboot` has a NUL in its header. -/
theorem reboot_page_malformed : ¬ ∀ (build : BuildTexts) (runCfg : RuntimeCfg) (page : WebPage)
    (mhc : ExtHttpConn), WellFormedPage ((webPageHander build runCfg page mhc).data,
      (webPageHander build runCfg page mhc).contentLength) (page.texts build runCfg).flatten := by
  intro all
  exact webPageHander_malformed {} {} .reboot {} (all {} {} .reboot {})

end LwipExt.Http
