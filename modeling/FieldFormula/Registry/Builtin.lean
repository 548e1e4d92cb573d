import FieldFormula.Library.Arithmetic
import FieldFormula.Library.Date
import FieldFormula.Library.Json
import FieldFormula.Library.Logic
import FieldFormula.Library.Math
import FieldFormula.Library.Pattern
import FieldFormula.Registry

/-!
# The built-in functions

The definitions of all functions of the language, by the kind of values that they work on,
and `Registry.builtin`, the registry that holds them.
-/

namespace FieldFormula.Registry

/-- The functions of texts. -/
def textFunctions : List Definition :=
  [⟨"CONTAINS", ["DoesThisValueExist", "AnywhereInsideThisValue"],
      "Returns true if search text is found within other text.",
      "=CONTAINS(urgent; [[Description]])",
      .complete, some Library.contains⟩,
    ⟨"!CONTAINS", ["DoesThisValueNotExist", "AnywhereInsideThisValue"],
      "Returns true if a search text is NOT found within some other text.",
      "=!CONTAINS(SearchText; [[Field]])",
      .complete, some Library.notContains⟩,
    ⟨"EQUALS", ["DoesThisValue", "EqualThisValue", "AndThisValue", "..."],
      "Returns true if first value equals ALL other values.",
      "=EQUALS([[Status]]; Approved)",
      .complete, some Library.equals⟩,
    ⟨"!EQUALS", ["DoesThisValue", "NotEqualThisValue", "OrThisValue", "..."],
      "Returns true if the first value does NOT equal any of the other values.",
      "=!EQUALS([[Status]]; Approved; Complete)",
      .complete, some Library.notEquals⟩,
    ⟨"APPEND", ["Separator", "Item1", "Item2", "..."],
      "Combines values together with a specified separator character.",
      "[[FirstName]]=APPEND( ; [[LastName]])",
      .complete, some Library.append⟩,
    ⟨"LEFT", ["Count", "Value"],
      "Returns specified characters from start of string.",
      "=LEFT(3; [[Code]])",
      .complete, some Library.left⟩,
    ⟨"RIGHT", ["Count", "Value"],
      "Returns specified chars from end of string.",
      "=RIGHT(4; [[Filename]])",
      .complete, some Library.right⟩,
    ⟨"LEFTOF", ["ReturnLeftOf", "SearchInString"],
      "Returns text left of first occurrence of characters.",
      "=LEFTOF(@; [[Email]])",
      .complete, some Library.leftOf⟩,
    ⟨"RIGHTOF", ["ReturnRightOf", "SearchInString"],
      "Returns text right of first occurrence.",
      "=RIGHTOF(@; [[Email]])",
      .complete, some Library.rightOf⟩,
    ⟨"LEFTOFLAST", ["ReturnLeftOf", "SearchInString"],
      "Returns text left of LAST occurrence.",
      "=LEFTOFLAST(/; [[FilePath]])",
      .complete, some Library.leftOfLast⟩,
    ⟨"RIGHTOFLAST", ["ReturnRightOf", "SearchInString"],
      "Returns text right of LAST occurrence.",
      "=RIGHTOFLAST(/; [[FilePath]])",
      .complete, some Library.rightOfLast⟩,
    ⟨"LENGTH", ["CharacterString"],
      "Returns character count in string.",
      "=LENGTH([[Description]])",
      .complete, some Library.length⟩,
    ⟨"LOWERCASE", ["String"],
      "Converts string to lowercase.",
      "=LOWERCASE([[Name]])",
      .complete, some Library.lowerCase⟩,
    ⟨"UPPERCASE", ["String"],
      "Capitalizes each letter.",
      "=UPPERCASE([[Code]])",
      .complete, some Library.upperCase⟩,
    ⟨"TITLECASE", ["TextParameter"],
      "Capitalizes first letter of each word.",
      "=TITLECASE([[name]])",
      .complete, some Library.titleCase⟩,
    ⟨"TRIM", ["TextToTrim"],
      "Removes leading/trailing spaces and double spaces.",
      "=TRIM([[Input]])",
      .complete, some Library.trim⟩,
    ⟨"REPLACE", ["SearchForText", "NewText", "SearchWithinText"],
      "Finds and replaces text.",
      "=REPLACE(old; new; [[Text]])",
      .complete, some Library.replace⟩,
    ⟨"REMOVECHARS", ["Value", "CharsToRemove"],
      "Removes specified characters from text.",
      "=REMOVECHARS([[Phone]]; -() )",
      .complete, some Library.removeChars⟩,
    ⟨"REMOVESPACES", ["Value"],
      "Removes all spaces from text.",
      "=REMOVESPACES([[Code]])",
      .complete, some Library.removeSpaces⟩,
    ⟨"REMOVEDIACRITICS", ["Value"],
      "Removes accents, replacing with equivalent chars.",
      "=REMOVEDIACRITICS(cafe)",
      .limited, some Library.removeDiacritics⟩,
    ⟨"REMOVESYMBOLS", ["Value"],
      "Removes symbols, keeping alphanumeric and spaces.",
      "=REMOVESYMBOLS([[Input]])",
      .limited, some Library.removeSymbols⟩,
    ⟨"NORMALIZETEXT", ["TextValue"],
      "Removes spaces, formatting, HTML, carriage returns, line feeds.",
      "=NORMALIZETEXT([[Input]])",
      .limited, some Library.normalizeText⟩,
    ⟨"PARSE", ["GetRightOfThisText", "GetLeftOfThisText", "SearchWithinThisText"],
      "Returns text between two markers. Special: crlf, tab.",
      "=PARSE(Name:; Age:; [[Data]])",
      .complete, some Library.parse⟩,
    ⟨"REGEXFIND", ["RegEx", "StringToSearch"],
      "Returns text matching regex pattern.",
      "=REGEXFIND(\\\\d+; This has number: 263)",
      .complete, some Library.regexFind⟩,
    ⟨"REGEXWORDSONLY", ["TextToConvertToRegex"],
      "Converts text to regex matching words only, ignoring punctuation.",
      "=REGEXWORDSONLY([[SearchText]])",
      .limited, some Library.wordsOnly⟩,
    ⟨"URLENCODE", ["CharacterToEncode"],
      "Encodes characters for URL use.",
      "=URLENCODE([[SearchTerm]])",
      .limited, some Library.urlEncode⟩,
    ⟨"ENCLOSE", ["ValueYouWantToHide"],
      "Hides text from rest of function. Useful for tokens with semicolons/HTML.",
      "=ENCLOSE([[FieldWithSemicolons]])",
      .complete, some Library.enclose⟩]

/-- The function of arithmetic. -/
def arithmeticFunctions : List Definition :=
  [⟨"CALC", ["MathematicalExpression"],
      "Performs mathematical operations on numbers or numeric fields.",
      "=CALC([[Price]] * [[Quantity]])",
      .complete, some Library.arithmetic⟩]

/-- The functions of numbers. -/
def numberFunctions : List Definition :=
  [⟨"NUM", ["Parameter"],
      "Extracts number by stripping non-numeric chars.",
      "=NUM([[PriceText]])",
      .complete, some Library.num⟩,
    ⟨"NUMSPLIT", ["Parameter"],
      "Extracts all numbers as semicolon list.",
      "=NUMSPLIT(123 Sample St, NY 10016)",
      .limited, some Library.numSplit⟩,
    ⟨"ROUND", ["NumOfDecimals", "AnyNumber"],
      "Rounds to specified decimal places.",
      "=ROUND(2; [[Total]])",
      .complete, some Library.round⟩,
    ⟨"FLOOR", ["AnyNumber"],
      "Returns largest integer <= the specified number.",
      "=FLOOR(4.8)",
      .complete, some Library.floor⟩,
    ⟨"CEILING", ["AnyNumber"],
      "Returns the smallest integer >= the specified number.",
      "=CEILING(4.2)",
      .complete, some Library.ceiling⟩,
    ⟨"MAX", ["Parameter1", "Parameter2", "..."],
      "Returns maximum number from list.",
      "=MAX([[Score1]]; [[Score2]]; [[Score3]])",
      .complete, some Library.maximum⟩,
    ⟨"MIN", ["Parameter1", "Parameter2", "..."],
      "Returns minimum number from list.",
      "=MIN([[Price1]]; [[Price2]])",
      .complete, some Library.minimum⟩,
    ⟨"SUM", ["Parameter1", "Parameter2", "..."],
      "Sums list of numbers.",
      "=SUM([[Item1]]; [[Item2]]; [[Item3]])",
      .complete, some Library.sum⟩,
    ⟨"RANDOMNUM", ["MinimumNumber", "MaximumNumber"],
      "Returns random number between bounds.",
      "=RANDOMNUM(1; 100)",
      .complete, some Library.randomNum⟩,
    ⟨"PARTITION", ["NumberToBePartitioned", "Divisor"],
      "Returns list of integers summing to original number.",
      "=PARTITION(100; 31)",
      .complete, some Library.partition⟩,
    ⟨"GTNUM", ["IsThisNumber", "GreaterThanThisNumber"],
      "Returns 1 if first number > second, 0 if false.",
      "=GTNUM([[Total]]; 1000)",
      .complete, some Library.isGreater⟩,
    ⟨"GTENUM", ["IsThisNumber", "GreaterOrEqualToThisNumber"],
      "Returns 1 if first number >= second, 0 if false.",
      "=GTENUM([[Score]]; 70)",
      .complete, some Library.isAtLeast⟩,
    ⟨"LTNUM", ["IsThisValue", "LessThanThisValue"],
      "Returns 1 if first value < second, 0 if false.",
      "=LTNUM([[Age]]; 18)",
      .complete, some Library.isLess⟩,
    ⟨"LTENUM", ["Value1", "Value2"],
      "Returns 1 if first value <= second, 0 if false.",
      "=LTENUM([[Count]]; 10)",
      .complete, some Library.isAtMost⟩,
    ⟨"BENUM", ["IsThisNum", "GreaterThanOrEqualToThisNum", "AndLessThanOrEqualToThisNum"],
      "Returns 1 if number is between or equal to two numbers (inclusive).",
      "=BENUM([[Score]]; 0; 100)",
      .complete, some Library.isBetween⟩,
    ⟨"BNUM", ["IsThisNum", "GreaterThanThisNum", "AndLessThanThisNum"],
      "Returns 1 if number is between two numbers (exclusive).",
      "=BNUM([[Score]]; 0; 100)",
      .complete, some Library.isStrictlyBetween⟩]

/-- The functions of truth values. -/
def truthFunctions : List Definition :=
  [⟨"IF", ["ConditionCheck", "IfTrueReturnThis", "AnotherCondition OR IfFalseReturnThis",
        "IfTrueReturnThis", "OptionalIfFalse"],
      "Checks conditions, returns corresponding values. First true wins.",
      "=IF(=GTNUM([[Score]]; 70); Pass; Fail)",
      .complete, some Library.ifThen⟩,
    ⟨"HASVALUE", ["DoesAnyValueExistHere"],
      "Returns true if any value exists (not empty).",
      "=HASVALUE([[Comments]])",
      .complete, some Library.hasValue⟩,
    ⟨"ISEMPTY", ["IsTheValueEmpty"],
      "Returns true if field is empty.",
      "=ISEMPTY([[Notes]])",
      .complete, some Library.isEmpty⟩,
    ⟨"ISTRUE", ["IsThisTrue", "OptionalIsThisTrue", "..."],
      "Returns true if ALL values are true. Numbers > 0 are true.",
      "=ISTRUE([[IsActive]]; [[IsVerified]])",
      .complete, some Library.isTrue⟩,
    ⟨"ANYTRUE", ["IsThisFunctionTrue", "IsThisFunctionTrue", "..."],
      "Returns 1 (true) if ANY parameter returns true. Numbers > 0 are true.",
      "=ANYTRUE(=EQUALS([[Status]]; Complete); =GTNUM([[Score]]; 80))",
      .complete, some Library.anyTrue⟩,
    ⟨"NOT", ["BooleanParameter"],
      "Returns opposite of Boolean (True->False). Zero is false.",
      "=NOT(=ISEMPTY([[Field]]))",
      .complete, some Library.negation⟩,
    ⟨"FIRSTVALUE", ["Item1", "Item2", "Item3", "..."],
      "Returns first non-empty value from list.",
      "=FIRSTVALUE([[PreferredName]]; [[FirstName]]; Unknown)",
      .complete, some Library.firstValue⟩]

/-- The functions of lists. -/
def listFunctions : List Definition :=
  [⟨"SPLIT", ["CharacterToSplitOn", "IndexOfSplitToReturn", "TextToSplit"],
      "Splits on character, returns section. Index 0 returns all.",
      "=SPLIT(-; 2; [[Code]])",
      .complete, some Library.split⟩,
    ⟨"LISTCOUNT", ["Item1", "Item2", "..."],
      "Returns total items in list.",
      "=LISTCOUNT([[Tags]])",
      .complete, some Library.listCount⟩,
    ⟨"LISTINDEX", ["ReturnIndex", "SemicolonSeparatedTextList"],
      "Returns entry at specified index.",
      "=LISTINDEX(2; [[Options]])",
      .complete, some Library.listIndex⟩,
    ⟨"LISTJOIN", ["NewListItemSeparator", "SemicolonSeparatedList"],
      "Joins entries with separator. Keywords: ppnewline, pptab, ppcrlf, ppsp.",
      "=LISTJOIN(ppnewline; [[Items]])",
      .complete, some Library.listJoin⟩,
    ⟨"LISTMERGE", ["SemicolonSeparatedList1", "SemicolonSeparatedList2"],
      "Returns all unique entries from both lists.",
      "=LISTMERGE([[List1]]; [[List2]])",
      .complete, some Library.listMerge⟩,
    ⟨"LISTDIFF", ["SemicolonSeparatedList1", "SemicolonSeparatedList2"],
      "Returns first list minus second list entries.",
      "=LISTDIFF([[AllItems]]; [[CompletedItems]])",
      .complete, some Library.listDiff⟩,
    ⟨"LISTINTERSECT", ["SemicolonSeparatedList1", "SemicolonSeparatedList2"],
      "Returns entries appearing in both lists.",
      "=LISTINTERSECT([[Skills]]; [[Required]])",
      .complete, some Library.listIntersect⟩,
    ⟨"LISTUNIQUE", ["SemicolonSeparatedList"],
      "Returns unique entries only (removes duplicates).",
      "=LISTUNIQUE([[AllTags]])",
      .complete, some Library.listUnique⟩,
    ⟨"LISTASLINES", ["SemicolonSeparatedList"],
      "Converts list to text with each entry on separate line.",
      "=LISTASLINES([[Items]])",
      .complete, some Library.listAsLines⟩,
    ⟨"LINESPLIT", ["IndexOfSplitListToReturn", "TextToSplit"],
      "Splits multiline text into list. Index 0 returns all.",
      "=LINESPLIT(1; [[Address]])",
      .complete, some Library.lineSplit⟩,
    ⟨"WORDSPLIT", ["ReturnWordIndex", "PlainText"],
      "Splits text into word list. Index 0 returns all.",
      "=WORDSPLIT(1; [[FullName]])",
      .limited, some Library.wordSplit⟩,
    ⟨"EMAILSPLIT", ["ReturnIndex", "EmailAddressText"],
      "Splits emails into semicolon list. Index 0 returns all.",
      "=EMAILSPLIT(0; email1@test.com, email2@test.com)",
      .limited, some Library.emailSplit⟩,
    ⟨"LISTITEMAPPEND", ["AppendText", "SemicolonSeparatedList"],
      "Appends text to each list entry.",
      "=LISTITEMAPPEND(.pdf; [[Filenames]])",
      .limited, some Library.itemAppend⟩,
    ⟨"LISTITEMPREPEND", ["PrependText", "SemicolonSeparatedList"],
      "Prepends text to each list entry.",
      "=LISTITEMPREPEND(ID-; [[Numbers]])",
      .limited, some Library.itemPrepend⟩,
    ⟨"LISTITEMCONTAINS", ["SearchForText", "SemicolonSeparatedList"],
      "Returns entries containing search text.",
      "=LISTITEMCONTAINS(error; [[LogEntries]])",
      .limited, some Library.itemContains⟩,
    ⟨"LISTITEMSTARTSWITH", ["SearchForText", "SemicolonSeparatedList"],
      "Returns entries starting with text.",
      "=LISTITEMSTARTSWITH(A; [[Codes]])",
      .limited, some Library.itemStartsWith⟩,
    ⟨"LISTITEMENDSWITH", ["SearchForText", "SemicolonSeparatedList"],
      "Returns entries ending with text.",
      "=LISTITEMENDSWITH(.pdf; [[Files]])",
      .limited, some Library.itemEndsWith⟩,
    ⟨"LISTITEMLEFT", ["NumberOfCharsToReturn", "SemicolonSeparatedList"],
      "Returns leftmost chars from each entry.",
      "=LISTITEMLEFT(4; [[Codes]])",
      .limited, some Library.itemLeft⟩,
    ⟨"LISTITEMRIGHT", ["NumberOfCharsToReturn", "SemicolonSeparatedList"],
      "Returns rightmost chars from each entry.",
      "=LISTITEMRIGHT(4; [[Files]])",
      .limited, some Library.itemRight⟩,
    ⟨"LISTITEMLEFTOF", ["SearchForText", "SemicolonSeparatedList"],
      "Returns text left of search text for each entry.",
      "=LISTITEMLEFTOF(@; [[Emails]])",
      .limited, some Library.itemLeftOf⟩,
    ⟨"LISTITEMRIGHTOF", ["SearchForText", "SemicolonSeparatedList"],
      "Returns text right of search text for each entry.",
      "=LISTITEMRIGHTOF(@; [[Emails]])",
      .limited, some Library.itemRightOf⟩,
    ⟨"LISTITEMREGEX", ["RegEx", "SemicolonSeparatedList"],
      "Returns entries matching regex.",
      "=LISTITEMREGEX(.*Entry\\\\d; [[Items]])",
      .limited, some Library.itemRegex⟩]

/-- The functions of dates. -/
def dateFunctions : List Definition :=
  [⟨"YEAR", ["DateValue"],
      "Extracts year from date.",
      "=YEAR([[CreatedDate]])",
      .complete, some Library.year⟩,
    ⟨"MONTH", ["DateValue"],
      "Extracts month (1-12) from date.",
      "=MONTH([[CreatedDate]])",
      .complete, some Library.month⟩,
    ⟨"MONTHDAY", ["DateValue"],
      "Extracts day of month (1-31) from date.",
      "=MONTHDAY([[Birthday]])",
      .complete, some Library.monthDay⟩,
    ⟨"DATEPART", ["DatePart", "DateValue"],
      "Extracts numeric part from date: year, weekday, yearday, monthweek, yearweek, month, "
      ++ "day, hour, minute, second.",
      "=DATEPART(weekday; [[CreatedDate]])",
      .complete, some Library.datePart⟩,
    ⟨"DATESERIAL", ["Year", "Month", "Day"],
      "Creates a date from year, month, day components.",
      "=DATESERIAL(2024; 12; 25)",
      .complete, some Library.dateSerial⟩,
    ⟨"DATEDIFF", ["ReturnUnit", "SubtractThisDate", "FromThisDate"],
      "Returns difference between two dates in specified unit.",
      "=DATEDIFF(day; [[StartDate]]; [[EndDate]])",
      .complete, some Library.dateDiff⟩,
    ⟨"DATEADD", ["UnitToIncrement", "IncrementBy", "DateToIncrement", "OptionalMinDate"],
      "Adds/subtracts time from a date. Units: second, minute, hour, day, weekday, week, "
      ++ "month, year.",
      "=DATEADD(day; 30; [[StartDate]])",
      .complete, some Library.dateAdd⟩,
    ⟨"DATELIST", ["StartDate", "EndDate"],
      "Generates semicolon-separated list of consecutive dates (inclusive).",
      "=DATELIST(2024-01-01; 2024-01-31)",
      .limited, some Library.dateList⟩,
    ⟨"DATETIMEMERGE", ["DateValue", "TimeValue"],
      "Merges date and time into single date/time value.",
      "=DATETIMEMERGE([[DateField]]; [[TimeField]])",
      .limited, some Library.dateTimeMerge⟩,
    ⟨"DATEROUND", ["UnitToRoundTo", "IntervalNum", "DateToRound"],
      "Rounds date/time to nearest interval. Units: minute, hour, day.",
      "=DATEROUND(hour; 1; [[Timestamp]])",
      .limited, some Library.dateRound⟩,
    ⟨"MONTHLASTDAY", ["DateValue", "OptionalAddOrSubtractDay"],
      "Returns last day of month. Optional param adds/subtracts days.",
      "=MONTHLASTDAY([[InvoiceDate]]; -1)",
      .complete, some Library.monthLastDay⟩,
    ⟨"FISCALMONTH", ["FiscalYearStartMonthNumber", "DateToEvaluate"],
      "Returns fiscal month number based on fiscal year start.",
      "=FISCALMONTH(7; [[Date]])",
      .limited, some Library.fiscalMonth⟩,
    ⟨"FISCALYEAR", ["FiscalYearStartMonthNumber", "DateToEvaluate"],
      "Returns fiscal year based on fiscal year start month.",
      "=FISCALYEAR(7; [[Date]])",
      .limited, some Library.fiscalYear⟩,
    ⟨"GTDATE", ["IsThisDate", "GreaterThanThisDate"],
      "Returns 1 if first date > second date, 0 if false.",
      "=GTDATE([[DueDate]]; [[Today]])",
      .complete, some Library.isLater⟩,
    ⟨"GTEDATE", ["Date1", "Date2"],
      "Returns 1 if Date1 >= Date2, 0 if false.",
      "=GTEDATE([[EndDate]]; [[StartDate]])",
      .complete, some Library.isNotEarlier⟩,
    ⟨"LTDATE", ["IsThisDate", "LessThanThisDate"],
      "Returns 1 if first date < second date, 0 if false.",
      "=LTDATE([[Created]]; [[Deadline]])",
      .complete, some Library.isEarlier⟩,
    ⟨"LTEDATE", ["IsThisDate", "LessThanOrEqualToThisDate"],
      "Returns 1 if first date <= second date, 0 if false.",
      "=LTEDATE([[Start]]; [[End]])",
      .complete, some Library.isNotLater⟩,
    ⟨"BDATE", ["IsThisDate", "GreaterThanThisDate", "AndLessThanThisDate"],
      "Returns 1 if the date is between two other dates (exclusive), 0 if false.",
      "=BDATE([[DueDate]]; 2024-01-01; 2024-12-31)",
      .complete, some Library.isDuring⟩,
    ⟨"BEDATE", ["IsThisDate", "GreaterThanOrEqualToThisDate", "AndLessThanOrEqualToThisDate"],
      "Returns 1 if the date is between or equal to two other dates (inclusive), 0 if false.",
      "=BEDATE([[DueDate]]; 2024-01-01; 2024-12-31)",
      .complete, some Library.isWithin⟩]

/-- The functions of JSON texts. -/
def jsonFunctions : List Definition :=
  [⟨"JSONENCODE", ["TextParameter"],
      "Returns text JSON encoded for use as JSON property value.",
      "=JSONENCODE([[MultilineText]])",
      .complete, some Library.jsonEncode⟩,
    ⟨"JSONEXTRACT", ["AnyTextContainingJSON"],
      "Extracts first valid JSON object/array from text.",
      "=JSONEXTRACT([[APIResponse]])",
      .complete, some Library.jsonExtract⟩,
    ⟨"JSONQUERY", ["JSONPropertyName", "JSONContainingTheProperty"],
      "Queries JSON and extracts property values. Use dot notation for nested.",
      "=JSONQUERY(data.name; [[JsonField]])",
      .complete, some Library.jsonQuery⟩,
    ⟨"JSONUPDATE", ["ExistingJsonObject", "PropertyName", "PropertyValue"],
      "Adds or updates property in JSON object.",
      "=JSONUPDATE([[JsonObject]]; status; updated)",
      .complete, some Library.jsonUpdate⟩,
    ⟨"JSONINDEX", ["IndexToRetrieve", "ExistingJsonArray"],
      "Returns element at index. Positive from start, negative from end.",
      "=JSONINDEX(1; [[JsonArray]])",
      .complete, some Library.jsonIndex⟩,
    ⟨"JSONREMOVE", ["IndexToRemove", "ExistingJsonArray"],
      "Removes element at index and returns modified array.",
      "=JSONREMOVE(1; [[JsonArray]])",
      .complete, some Library.jsonRemove⟩,
    ⟨"JSONFIFO", ["ExistingJsonArray", "NewJsonObjectToAdd", "MaximumLength"],
      "Adds JSON object to array. If MaxLength exceeded, removes last.",
      "=JSONFIFO([[LogArray]]; \x7b\"action\":\"login\"\x7d; 100)",
      .complete, some Library.jsonFifo⟩]

/-- The function of patterns. -/
def patternFunctions : List Definition :=
  [⟨"FORMAT", ["FormatString", "NumberOrDate"],
      "Formats number/date according to format string.",
      "=FORMAT(0.00; [[Price]])",
      .limited, some Library.format⟩]

/-- The functions that need a server and are not available without one. -/
def serverFunctions : List Definition :=
  [⟨"DATEPATTERN", ["DateRecurrencePattern", "EndDateToGenerate", "RecurrenceAnchorDate",
        "StartFromStartDate"],
      "Generates future dates based on recurrence pattern.",
      "=DATEPATTERN(f1w d\x7b12345\x7d; 2024-12-31)",
      .absent, none⟩,
    ⟨"INSTANCECOUNT", ["TableID", "TableQuery"],
      "Returns count of instances matching query.",
      "=INSTANCECOUNT(TableID; tf_id_xxx[eq]Value)",
      .absent, none⟩,
    ⟨"INSTANCETASKCOUNT", ["ProcessInstanceID", "TemplateTaskID"],
      "Returns times a task was assigned in a process instance.",
      "=INSTANCETASKCOUNT([[ProcessInstanceID]]; TaskID)",
      .absent, none⟩,
    ⟨"INSTANCEUPDATE", ["FieldIDToUpdate", "TableIDToSearch", "SearchQuery", "NewFieldValue"],
      "Updates field in processes matching query.",
      "=INSTANCEUPDATE(FieldID; TableID; Query; NewValue)",
      .absent, none⟩,
    ⟨"ISCONTEXT", ["ContextIDToTest", "AnotherOptionalID", "..."],
      "Tests if formula runs in specified context.",
      "=IF(=ISCONTEXT(FormID); Atlanta; Orlando)",
      .absent, none⟩,
    ⟨"ISPUBLICUSER", [],
      "Returns true if executed by non-logged-in user.",
      "=IF(=ISPUBLICUSER(); PublicContent; PrivateContent)",
      .absent, none⟩,
    ⟨"TABLEAVG", ["FieldID", "TableID", "TableQuery"],
      "Returns average of column values in table.",
      "=TABLEAVG(FieldID; TableID; Query)",
      .absent, none⟩,
    ⟨"TABLEJSON", ["NumberOfColumns", "ProcessTableID", "OptionalTableQuery"],
      "Returns table data as JSON array of objects.",
      "=TABLEJSON(5; TableID; Query)",
      .absent, none⟩,
    ⟨"TABLELOOKUP", ["FieldTokenToRetrieve", "TableID", "TableQuery"],
      "Returns value from Process Table matching query.",
      "=TABLELOOKUP([[FieldToken]]; TableID; Query)",
      .absent, none⟩,
    ⟨"TABLESUM", ["FieldID", "TableID", "TableQuery"],
      "Sums column values in table.",
      "=TABLESUM(FieldID; TableID; Query)",
      .absent, none⟩,
    ⟨"TASKLOOKUP", ["FieldTokenToRetrieve", "TemplateTaskID", "TaskQuery"],
      "Queries task and returns requested attribute.",
      "=TASKLOOKUP([[AssignedTo]]; TaskID; Query)",
      .absent, none⟩,
    ⟨"TASKREPORT", ["TextBlockID", "ProcessInstanceID", "IncludeSubprocessTask", "FilterQuery"],
      "Produces task report using Text Block format.",
      "=TASKREPORT([[TextBlockID]]; [[ProcessInstanceID]]; true; it_name[ct]task)",
      .absent, none⟩,
    ⟨"WORKDAY", ["WorkScheduleID", "WorkdaysToSkip", "DateToStartEvaluatingFrom"],
      "Advances date to next working day based on work schedule.",
      "=WORKDAY([[WorkScheduleID]]; 5; [[StartDate]])",
      .absent, none⟩]

/-- The registry of all built-in functions. -/
def builtin : Registry :=
  ofList (textFunctions ++ arithmeticFunctions ++ numberFunctions ++ truthFunctions ++
    listFunctions ++ dateFunctions ++ jsonFunctions ++ patternFunctions ++ serverFunctions)

end FieldFormula.Registry
