/-! # Shell completion scripts

`keyswap completion SHELL` prints a script that teaches a shell to complete the tool's
command lines. Each script asks the tool itself: it runs the tool with a request command
(`__complete`, or `__completeNoDesc` for candidates without descriptions) followed by the
words typed so far, the last one possibly empty, and reads back one candidate per line
and a last line `:N` whose bits are the completion directive (1 error, 2 no space after
the candidate, 4 no file names, 8 file names by extension, 16 directories only, 32 keep
the order). The scripts below are fixed texts with the tool's name and the request
command put in; the name is used as part of shell identifiers, so it is a plain word.
-/
namespace KeyedComposite.Cli.ShellScript

def lines (ls : List String) : String := String.join (ls.map (· ++ "\n"))

def padded (name : String) : String :=
  name ++ String.ofList (List.replicate (36 - name.length) ' ')

def activeHelpVar (name : String) : String :=
  String.ofList ((name ++ "_active_help").toList.map fun c =>
    if c = '-' ∨ c = ':' then '_' else c.toUpper)

/-- The bash script: it needs bash 4.1 or later and the bash-completion package. -/
def bash (name request : String) : String := lines [
  "# bash completion V2 for " ++ padded name ++ " -*- shell-script -*-",
  "",
  "__" ++ name ++ "_debug()",
  "\x7b",
  "    if [[ -n $\x7bBASH_COMP_DEBUG_FILE-\x7d ]]; then",
  "        echo \"$*\" >> \"$\x7bBASH_COMP_DEBUG_FILE\x7d\"",
  "    fi",
  "\x7d",
  "",
  "# Macs have bash3 for which the bash-completion package doesn't include",
  "# _init_completion. This is a minimal version of that function.",
  "__" ++ name ++ "_init_completion()",
  "\x7b",
  "    COMPREPLY=()",
  "    _get_comp_words_by_ref \"$@\" cur prev words cword",
  "\x7d",
  "",
  "# This function calls the " ++ name ++ " program to obtain the completion",
  "# results and the directive.  It fills the 'out' and 'directive' vars.",
  "__" ++ name ++ "_get_completion_results() \x7b",
  "    local requestComp lastParam lastChar args",
  "",
  "    # Prepare the command to request completions for the program.",
  "    # Calling $\x7bwords[0]\x7d instead of directly " ++ name ++ " allows handling aliases",
  "    args=(\"$\x7bwords[@]:1\x7d\")",
  "    requestComp=\"$\x7bwords[0]\x7d " ++ request ++ " $\x7bargs[*]\x7d\"",
  "",
  "    lastParam=$\x7bwords[$(($\x7b#words[@]\x7d-1))]\x7d",
  "    lastChar=$\x7blastParam:$(($\x7b#lastParam\x7d-1)):1\x7d",
  "    __" ++ name ++ "_debug \"lastParam $\x7blastParam\x7d, lastChar $\x7blastChar\x7d\"",
  "",
  "    if [[ -z $\x7bcur\x7d && $\x7blastChar\x7d != = ]]; then",
  "        # If the last parameter is complete (there is a space following it)",
  "        # We add an extra empty parameter so we can indicate this to the go method.",
  "        __" ++ name ++ "_debug \"Adding extra empty parameter\"",
  "        requestComp=\"$\x7brequestComp\x7d ''\"",
  "    fi",
  "",
  "    # When completing a flag with an = (e.g., " ++ name ++ " -n=<TAB>)",
  "    # bash focuses on the part after the =, so we need to remove",
  "    # the flag part from $cur",
  "    if [[ $\x7bcur\x7d == -*=* ]]; then",
  "        cur=\"$\x7bcur#*=\x7d\"",
  "    fi",
  "",
  "    __" ++ name ++ "_debug \"Calling $\x7brequestComp\x7d\"",
  "    # Use eval to handle any environment variables and such",
  "    out=$(eval \"$\x7brequestComp\x7d\" 2>/dev/null)",
  "",
  "    # Extract the directive integer at the very end of the output following a colon (:)",
  "    directive=$\x7bout##*:\x7d",
  "    # Remove the directive",
  "    out=$\x7bout%:*\x7d",
  "    if [[ $\x7bdirective\x7d == \"$\x7bout\x7d\" ]]; then",
  "        # There is not directive specified",
  "        directive=0",
  "    fi",
  "    __" ++ name ++ "_debug \"The completion directive is: $\x7bdirective\x7d\"",
  "    __" ++ name ++ "_debug \"The completions are: $\x7bout\x7d\"",
  "\x7d",
  "",
  "__" ++ name ++ "_process_completion_results() \x7b",
  "    local shellCompDirectiveError=1",
  "    local shellCompDirectiveNoSpace=2",
  "    local shellCompDirectiveNoFileComp=4",
  "    local shellCompDirectiveFilterFileExt=8",
  "    local shellCompDirectiveFilterDirs=16",
  "    local shellCompDirectiveKeepOrder=32",
  "",
  "    if (((directive & shellCompDirectiveError) != 0)); then",
  "        # Error code.  No completion.",
  "        __" ++ name ++ "_debug \"Received error from custom completion go code\"",
  "        return",
  "    else",
  "        if (((directive & shellCompDirectiveNoSpace) != 0)); then",
  "            if [[ $(type -t compopt) == builtin ]]; then",
  "                __" ++ name ++ "_debug \"Activating no space\"",
  "                compopt -o nospace",
  "            else",
  "                __" ++ name ++ "_debug \"No space directive not supported in this version of bash\"",
  "            fi",
  "        fi",
  "        if (((directive & shellCompDirectiveKeepOrder) != 0)); then",
  "            if [[ $(type -t compopt) == builtin ]]; then",
  "                # no sort isn't supported for bash less than < 4.4",
  "                if [[ $\x7bBASH_VERSINFO[0]\x7d -lt 4 || ( $\x7bBASH_VERSINFO[0]\x7d -eq 4 && $\x7bBASH_VERSINFO[1]\x7d -lt 4 ) ]]; then",
  "                    __" ++ name ++ "_debug \"No sort directive not supported in this version of bash\"",
  "                else",
  "                    __" ++ name ++ "_debug \"Activating keep order\"",
  "                    compopt -o nosort",
  "                fi",
  "            else",
  "                __" ++ name ++ "_debug \"No sort directive not supported in this version of bash\"",
  "            fi",
  "        fi",
  "        if (((directive & shellCompDirectiveNoFileComp) != 0)); then",
  "            if [[ $(type -t compopt) == builtin ]]; then",
  "                __" ++ name ++ "_debug \"Activating no file completion\"",
  "                compopt +o default",
  "            else",
  "                __" ++ name ++ "_debug \"No file completion directive not supported in this version of bash\"",
  "            fi",
  "        fi",
  "    fi",
  "",
  "    # Separate activeHelp from normal completions",
  "    local completions=()",
  "    local activeHelp=()",
  "    __" ++ name ++ "_extract_activeHelp",
  "",
  "    if (((directive & shellCompDirectiveFilterFileExt) != 0)); then",
  "        # File extension filtering",
  "        local fullFilter=\"\" filter filteringCmd",
  "",
  "        # Do not use quotes around the $completions variable or else newline",
  "        # characters will be kept.",
  "        for filter in $\x7bcompletions[*]\x7d; do",
  "            fullFilter+=\"$filter|\"",
  "        done",
  "",
  "        filteringCmd=\"_filedir $fullFilter\"",
  "        __" ++ name ++ "_debug \"File filtering command: $filteringCmd\"",
  "        $filteringCmd",
  "    elif (((directive & shellCompDirectiveFilterDirs) != 0)); then",
  "        # File completion for directories only",
  "",
  "        local subdir",
  "        subdir=$\x7bcompletions[0]\x7d",
  "        if [[ -n $subdir ]]; then",
  "            __" ++ name ++ "_debug \"Listing directories in $subdir\"",
  "            pushd \"$subdir\" >/dev/null 2>&1 && _filedir -d && popd >/dev/null 2>&1 || return",
  "        else",
  "            __" ++ name ++ "_debug \"Listing directories in .\"",
  "            _filedir -d",
  "        fi",
  "    else",
  "        __" ++ name ++ "_handle_completion_types",
  "    fi",
  "",
  "    __" ++ name ++ "_handle_special_char \"$cur\" :",
  "    __" ++ name ++ "_handle_special_char \"$cur\" =",
  "",
  "    # Print the activeHelp statements before we finish",
  "    __" ++ name ++ "_handle_activeHelp",
  "\x7d",
  "",
  "__" ++ name ++ "_handle_activeHelp() \x7b",
  "    # Print the activeHelp statements",
  "    if (($\x7b#activeHelp[*]\x7d != 0)); then",
  "        if [ -z $COMP_TYPE ]; then",
  "            # Bash v3 does not set the COMP_TYPE variable.",
  "            printf \"\\n\";",
  "            printf \"%s\\n\" \"$\x7bactiveHelp[@]\x7d\"",
  "            printf \"\\n\"",
  "            __" ++ name ++ "_reprint_commandLine",
  "            return",
  "        fi",
  "",
  "        # Only print ActiveHelp on the second TAB press",
  "        if [ $COMP_TYPE -eq 63 ]; then",
  "            printf \"\\n\"",
  "            printf \"%s\\n\" \"$\x7bactiveHelp[@]\x7d\"",
  "",
  "            if (($\x7b#COMPREPLY[*]\x7d == 0)); then",
  "                # When there are no completion choices from the program, file completion",
  "                # may kick in if the program has not disabled it; in such a case, we want",
  "                # to know if any files will match what the user typed, so that we know if",
  "                # there will be completions presented, so that we know how to handle ActiveHelp.",
  "                # To find out, we actually trigger the file completion ourselves;",
  "                # the call to _filedir will fill COMPREPLY if files match.",
  "                if (((directive & shellCompDirectiveNoFileComp) == 0)); then",
  "                    __" ++ name ++ "_debug \"Listing files\"",
  "                    _filedir",
  "                fi",
  "            fi",
  "",
  "            if (($\x7b#COMPREPLY[*]\x7d != 0)); then",
  "                # If there are completion choices to be shown, print a delimiter.",
  "                # Re-printing the command-line will automatically be done",
  "                # by the shell when it prints the completion choices.",
  "                printf -- \"--\"",
  "            else",
  "                # When there are no completion choices at all, we need",
  "                # to re-print the command-line since the shell will",
  "                # not be doing it itself.",
  "                __" ++ name ++ "_reprint_commandLine",
  "            fi",
  "        elif [ $COMP_TYPE -eq 37 ] || [ $COMP_TYPE -eq 42 ]; then",
  "            # For completion type: menu-complete/menu-complete-backward and insert-completions",
  "            # the completions are immediately inserted into the command-line, so we first",
  "            # print the activeHelp message and reprint the command-line since the shell won't.",
  "            printf \"\\n\"",
  "            printf \"%s\\n\" \"$\x7bactiveHelp[@]\x7d\"",
  "",
  "            __" ++ name ++ "_reprint_commandLine",
  "        fi",
  "    fi",
  "\x7d",
  "",
  "__" ++ name ++ "_reprint_commandLine() \x7b",
  "    # The prompt format is only available from bash 4.4.",
  "    # We test if it is available before using it.",
  "    if (x=$\x7bPS1@P\x7d) 2> /dev/null; then",
  "        printf \"%s\" \"$\x7bPS1@P\x7d$\x7bCOMP_LINE[@]\x7d\"",
  "    else",
  "        # Can't print the prompt.  Just print the",
  "        # text the user had typed, it is workable enough.",
  "        printf \"%s\" \"$\x7bCOMP_LINE[@]\x7d\"",
  "    fi",
  "\x7d",
  "",
  "# Separate activeHelp lines from real completions.",
  "# Fills the $activeHelp and $completions arrays.",
  "__" ++ name ++ "_extract_activeHelp() \x7b",
  "    local activeHelpMarker=\"_activeHelp_ \"",
  "    local endIndex=$\x7b#activeHelpMarker\x7d",
  "",
  "    while IFS='' read -r comp; do",
  "        [[ -z $comp ]] && continue",
  "",
  "        if [[ $\x7bcomp:0:endIndex\x7d == $activeHelpMarker ]]; then",
  "            comp=$\x7bcomp:endIndex\x7d",
  "            __" ++ name ++ "_debug \"ActiveHelp found: $comp\"",
  "            if [[ -n $comp ]]; then",
  "                activeHelp+=(\"$comp\")",
  "            fi",
  "        else",
  "            # Not an activeHelp line but a normal completion",
  "            completions+=(\"$comp\")",
  "        fi",
  "    done <<<\"$\x7bout\x7d\"",
  "\x7d",
  "",
  "__" ++ name ++ "_handle_completion_types() \x7b",
  "    __" ++ name ++ "_debug \"__" ++ name ++ "_handle_completion_types: COMP_TYPE is $COMP_TYPE\"",
  "",
  "    case $COMP_TYPE in",
  "    37|42)",
  "        # Type: menu-complete/menu-complete-backward and insert-completions",
  "        # If the user requested inserting one completion at a time, or all",
  "        # completions at once on the command-line we must remove the descriptions.",
  "        # https://github.com/spf13/cobra/issues/1508",
  "",
  "        # If there are no completions, we don't need to do anything",
  "        (( $\x7b#completions[@]\x7d == 0 )) && return 0",
  "",
  "        local tab=$'\\t'",
  "",
  "        # Strip any description and escape the completion to handled special characters",
  "        IFS=$'\\n' read -ra completions -d '' < <(printf \"%q\\n\" \"$\x7bcompletions[@]%%$tab*\x7d\")",
  "",
  "        # Only consider the completions that match",
  "        IFS=$'\\n' read -ra COMPREPLY -d '' < <(IFS=$'\\n'; compgen -W \"$\x7bcompletions[*]\x7d\" -- \"$\x7bcur\x7d\")",
  "",
  "        # compgen looses the escaping so we need to escape all completions again since they will",
  "        # all be inserted on the command-line.",
  "        IFS=$'\\n' read -ra COMPREPLY -d '' < <(printf \"%q\\n\" \"$\x7bCOMPREPLY[@]\x7d\")",
  "        ;;",
  "",
  "    *)",
  "        # Type: complete (normal completion)",
  "        __" ++ name ++ "_handle_standard_completion_case",
  "        ;;",
  "    esac",
  "\x7d",
  "",
  "__" ++ name ++ "_handle_standard_completion_case() \x7b",
  "    local tab=$'\\t'",
  "",
  "    # If there are no completions, we don't need to do anything",
  "    (( $\x7b#completions[@]\x7d == 0 )) && return 0",
  "",
  "    # Short circuit to optimize if we don't have descriptions",
  "    if [[ \"$\x7bcompletions[*]\x7d\" != *$tab* ]]; then",
  "        # First, escape the completions to handle special characters",
  "        IFS=$'\\n' read -ra completions -d '' < <(printf \"%q\\n\" \"$\x7bcompletions[@]\x7d\")",
  "        # Only consider the completions that match what the user typed",
  "        IFS=$'\\n' read -ra COMPREPLY -d '' < <(IFS=$'\\n'; compgen -W \"$\x7bcompletions[*]\x7d\" -- \"$\x7bcur\x7d\")",
  "",
  "        # compgen looses the escaping so, if there is only a single completion, we need to",
  "        # escape it again because it will be inserted on the command-line.  If there are multiple",
  "        # completions, we don't want to escape them because they will be printed in a list",
  "        # and we don't want to show escape characters in that list.",
  "        if (( $\x7b#COMPREPLY[@]\x7d == 1 )); then",
  "            COMPREPLY[0]=$(printf \"%q\" \"$\x7bCOMPREPLY[0]\x7d\")",
  "        fi",
  "        return 0",
  "    fi",
  "",
  "    local longest=0",
  "    local compline",
  "    # Look for the longest completion so that we can format things nicely",
  "    while IFS='' read -r compline; do",
  "        [[ -z $compline ]] && continue",
  "",
  "        # Before checking if the completion matches what the user typed,",
  "        # we need to strip any description and escape the completion to handle special",
  "        # characters because those escape characters are part of what the user typed.",
  "        # Don't call \"printf\" in a sub-shell because it will be much slower",
  "        # since we are in a loop.",
  "        printf -v comp \"%q\" \"$\x7bcompline%%$tab*\x7d\" &>/dev/null || comp=$(printf \"%q\" \"$\x7bcompline%%$tab*\x7d\")",
  "",
  "        # Only consider the completions that match",
  "        [[ $comp == \"$cur\"* ]] || continue",
  "",
  "        # The completions matches.  Add it to the list of full completions including",
  "        # its description.  We don't escape the completion because it may get printed",
  "        # in a list if there are more than one and we don't want show escape characters",
  "        # in that list.",
  "        COMPREPLY+=(\"$compline\")",
  "",
  "        # Strip any description before checking the length, and again, don't escape",
  "        # the completion because this length is only used when printing the completions",
  "        # in a list and we don't want show escape characters in that list.",
  "        comp=$\x7bcompline%%$tab*\x7d",
  "        if (($\x7b#comp\x7d>longest)); then",
  "            longest=$\x7b#comp\x7d",
  "        fi",
  "    done < <(printf \"%s\\n\" \"$\x7bcompletions[@]\x7d\")",
  "",
  "    # If there is a single completion left, remove the description text and escape any special characters",
  "    if (($\x7b#COMPREPLY[*]\x7d == 1)); then",
  "        __" ++ name ++ "_debug \"COMPREPLY[0]: $\x7bCOMPREPLY[0]\x7d\"",
  "        COMPREPLY[0]=$(printf \"%q\" \"$\x7bCOMPREPLY[0]%%$tab*\x7d\")",
  "        __" ++ name ++ "_debug \"Removed description from single completion, which is now: $\x7bCOMPREPLY[0]\x7d\"",
  "    else",
  "        # Format the descriptions",
  "        __" ++ name ++ "_format_comp_descriptions $longest",
  "    fi",
  "\x7d",
  "",
  "__" ++ name ++ "_handle_special_char()",
  "\x7b",
  "    local comp=\"$1\"",
  "    local char=$2",
  "    if [[ \"$comp\" == *$\x7bchar\x7d* && \"$COMP_WORDBREAKS\" == *$\x7bchar\x7d* ]]; then",
  "        local word=$\x7bcomp%\"$\x7bcomp##*$\x7bchar\x7d\x7d\"\x7d",
  "        local idx=$\x7b#COMPREPLY[*]\x7d",
  "        while ((--idx >= 0)); do",
  "            COMPREPLY[idx]=$\x7bCOMPREPLY[idx]#\"$word\"\x7d",
  "        done",
  "    fi",
  "\x7d",
  "",
  "__" ++ name ++ "_format_comp_descriptions()",
  "\x7b",
  "    local tab=$'\\t'",
  "    local comp desc maxdesclength",
  "    local longest=$1",
  "",
  "    local i ci",
  "    for ci in $\x7b!COMPREPLY[*]\x7d; do",
  "        comp=$\x7bCOMPREPLY[ci]\x7d",
  "        # Properly format the description string which follows a tab character if there is one",
  "        if [[ \"$comp\" == *$tab* ]]; then",
  "            __" ++ name ++ "_debug \"Original comp: $comp\"",
  "            desc=$\x7bcomp#*$tab\x7d",
  "            comp=$\x7bcomp%%$tab*\x7d",
  "",
  "            # $COLUMNS stores the current shell width.",
  "            # Remove an extra 4 because we add 2 spaces and 2 parentheses.",
  "            maxdesclength=$(( COLUMNS - longest - 4 ))",
  "",
  "            # Make sure we can fit a description of at least 8 characters",
  "            # if we are to align the descriptions.",
  "            if ((maxdesclength > 8)); then",
  "                # Add the proper number of spaces to align the descriptions",
  "                for ((i = $\x7b#comp\x7d ; i < longest ; i++)); do",
  "                    comp+=\" \"",
  "                done",
  "            else",
  "                # Don't pad the descriptions so we can fit more text after the completion",
  "                maxdesclength=$(( COLUMNS - $\x7b#comp\x7d - 4 ))",
  "            fi",
  "",
  "            # If there is enough space for any description text,",
  "            # truncate the descriptions that are too long for the shell width",
  "            if ((maxdesclength > 0)); then",
  "                if (($\x7b#desc\x7d > maxdesclength)); then",
  "                    desc=$\x7bdesc:0:$(( maxdesclength - 1 ))\x7d",
  "                    desc+=\"…\"",
  "                fi",
  "                comp+=\"  ($desc)\"",
  "            fi",
  "            COMPREPLY[ci]=$comp",
  "            __" ++ name ++ "_debug \"Final comp: $comp\"",
  "        fi",
  "    done",
  "\x7d",
  "",
  "__start_" ++ name ++ "()",
  "\x7b",
  "    local cur prev words cword split",
  "",
  "    COMPREPLY=()",
  "",
  "    # Call _init_completion from the bash-completion package",
  "    # to prepare the arguments properly",
  "    if declare -F _init_completion >/dev/null 2>&1; then",
  "        _init_completion -n =: || return",
  "    else",
  "        __" ++ name ++ "_init_completion -n =: || return",
  "    fi",
  "",
  "    __" ++ name ++ "_debug",
  "    __" ++ name ++ "_debug \"========= starting completion logic ==========\"",
  "    __" ++ name ++ "_debug \"cur is $\x7bcur\x7d, words[*] is $\x7bwords[*]\x7d, #words[@] is $\x7b#words[@]\x7d, cword is $cword\"",
  "",
  "    # The user could have moved the cursor backwards on the command-line.",
  "    # We need to trigger completion from the $cword location, so we need",
  "    # to truncate the command-line ($words) up to the $cword location.",
  "    words=(\"$\x7bwords[@]:0:$cword+1\x7d\")",
  "    __" ++ name ++ "_debug \"Truncated words[*]: $\x7bwords[*]\x7d,\"",
  "",
  "    local out directive",
  "    __" ++ name ++ "_get_completion_results",
  "    __" ++ name ++ "_process_completion_results",
  "\x7d",
  "",
  "if [[ $(type -t compopt) = \"builtin\" ]]; then",
  "    complete -o default -F __start_" ++ name ++ " " ++ name,
  "else",
  "    complete -o default -o nospace -F __start_" ++ name ++ " " ++ name,
  "fi",
  "",
  "# ex: ts=4 sw=4 et filetype=sh"]

/-- The zsh script, for a file that compinit loads. -/
def zsh (name request : String) : String := lines [
  "#compdef " ++ name,
  "compdef _" ++ name ++ " " ++ name,
  "",
  "# zsh completion for " ++ padded name ++ " -*- shell-script -*-",
  "",
  "__" ++ name ++ "_debug()",
  "\x7b",
  "    local file=\"$BASH_COMP_DEBUG_FILE\"",
  "    if [[ -n $\x7bfile\x7d ]]; then",
  "        echo \"$*\" >> \"$\x7bfile\x7d\"",
  "    fi",
  "\x7d",
  "",
  "_" ++ name ++ "()",
  "\x7b",
  "    local shellCompDirectiveError=1",
  "    local shellCompDirectiveNoSpace=2",
  "    local shellCompDirectiveNoFileComp=4",
  "    local shellCompDirectiveFilterFileExt=8",
  "    local shellCompDirectiveFilterDirs=16",
  "    local shellCompDirectiveKeepOrder=32",
  "",
  "    local lastParam lastChar flagPrefix requestComp out directive comp lastComp noSpace keepOrder",
  "    local -a completions",
  "",
  "    __" ++ name ++ "_debug \"\\n========= starting completion logic ==========\"",
  "    __" ++ name ++ "_debug \"CURRENT: $\x7bCURRENT\x7d, words[*]: $\x7bwords[*]\x7d\"",
  "",
  "    # The user could have moved the cursor backwards on the command-line.",
  "    # We need to trigger completion from the $CURRENT location, so we need",
  "    # to truncate the command-line ($words) up to the $CURRENT location.",
  "    # (We cannot use $CURSOR as its value does not work when a command is an alias.)",
  "    words=(\"$\x7b=words[1,CURRENT]\x7d\")",
  "    __" ++ name ++ "_debug \"Truncated words[*]: $\x7bwords[*]\x7d,\"",
  "",
  "    lastParam=$\x7bwords[-1]\x7d",
  "    lastChar=$\x7blastParam[-1]\x7d",
  "    __" ++ name ++ "_debug \"lastParam: $\x7blastParam\x7d, lastChar: $\x7blastChar\x7d\"",
  "",
  "    # For zsh, when completing a flag with an = (e.g., " ++ name ++ " -n=<TAB>)",
  "    # completions must be prefixed with the flag",
  "    setopt local_options BASH_REMATCH",
  "    if [[ \"$\x7blastParam\x7d\" =~ '-.*=' ]]; then",
  "        # We are dealing with a flag with an =",
  "        flagPrefix=\"-P $\x7bBASH_REMATCH\x7d\"",
  "    fi",
  "",
  "    # Prepare the command to obtain completions",
  "    requestComp=\"$\x7bwords[1]\x7d " ++ request ++ " $\x7bwords[2,-1]\x7d\"",
  "    if [ \"$\x7blastChar\x7d\" = \"\" ]; then",
  "        # If the last parameter is complete (there is a space following it)",
  "        # We add an extra empty parameter so we can indicate this to the go completion code.",
  "        __" ++ name ++ "_debug \"Adding extra empty parameter\"",
  "        requestComp=\"$\x7brequestComp\x7d \\\"\\\"\"",
  "    fi",
  "",
  "    __" ++ name ++ "_debug \"About to call: eval $\x7brequestComp\x7d\"",
  "",
  "    # Use eval to handle any environment variables and such",
  "    out=$(eval $\x7brequestComp\x7d 2>/dev/null)",
  "    __" ++ name ++ "_debug \"completion output: $\x7bout\x7d\"",
  "",
  "    # Extract the directive integer following a : from the last line",
  "    local lastLine",
  "    while IFS='\\n' read -r line; do",
  "        lastLine=$\x7bline\x7d",
  "    done < <(printf \"%s\\n\" \"$\x7bout[@]\x7d\")",
  "    __" ++ name ++ "_debug \"last line: $\x7blastLine\x7d\"",
  "",
  "    if [ \"$\x7blastLine[1]\x7d\" = : ]; then",
  "        directive=$\x7blastLine[2,-1]\x7d",
  "        # Remove the directive including the : and the newline",
  "        local suffix",
  "        (( suffix=$\x7b#lastLine\x7d+2))",
  "        out=$\x7bout[1,-$suffix]\x7d",
  "    else",
  "        # There is no directive specified.  Leave $out as is.",
  "        __" ++ name ++ "_debug \"No directive found.  Setting do default\"",
  "        directive=0",
  "    fi",
  "",
  "    __" ++ name ++ "_debug \"directive: $\x7bdirective\x7d\"",
  "    __" ++ name ++ "_debug \"completions: $\x7bout\x7d\"",
  "    __" ++ name ++ "_debug \"flagPrefix: $\x7bflagPrefix\x7d\"",
  "",
  "    if [ $((directive & shellCompDirectiveError)) -ne 0 ]; then",
  "        __" ++ name ++ "_debug \"Completion received error. Ignoring completions.\"",
  "        return",
  "    fi",
  "",
  "    local activeHelpMarker=\"_activeHelp_ \"",
  "    local endIndex=$\x7b#activeHelpMarker\x7d",
  "    local startIndex=$(($\x7b#activeHelpMarker\x7d+1))",
  "    local hasActiveHelp=0",
  "    while IFS='\\n' read -r comp; do",
  "        # Check if this is an activeHelp statement (i.e., prefixed with $activeHelpMarker)",
  "        if [ \"$\x7bcomp[1,$endIndex]\x7d\" = \"$activeHelpMarker\" ];then",
  "            __" ++ name ++ "_debug \"ActiveHelp found: $comp\"",
  "            comp=\"$\x7bcomp[$startIndex,-1]\x7d\"",
  "            if [ -n \"$comp\" ]; then",
  "                compadd -x \"$\x7bcomp\x7d\"",
  "                __" ++ name ++ "_debug \"ActiveHelp will need delimiter\"",
  "                hasActiveHelp=1",
  "            fi",
  "",
  "            continue",
  "        fi",
  "",
  "        if [ -n \"$comp\" ]; then",
  "            # If requested, completions are returned with a description.",
  "            # The description is preceded by a TAB character.",
  "            # For zsh's _describe, we need to use a : instead of a TAB.",
  "            # We first need to escape any : as part of the completion itself.",
  "            comp=$\x7bcomp//:/\\\\:\x7d",
  "",
  "            local tab=\"$(printf '\\t')\"",
  "            comp=$\x7bcomp//$tab/:\x7d",
  "",
  "            __" ++ name ++ "_debug \"Adding completion: $\x7bcomp\x7d\"",
  "            completions+=$\x7bcomp\x7d",
  "            lastComp=$comp",
  "        fi",
  "    done < <(printf \"%s\\n\" \"$\x7bout[@]\x7d\")",
  "",
  "    # Add a delimiter after the activeHelp statements, but only if:",
  "    # - there are completions following the activeHelp statements, or",
  "    # - file completion will be performed (so there will be choices after the activeHelp)",
  "    if [ $hasActiveHelp -eq 1 ]; then",
  "        if [ $\x7b#completions\x7d -ne 0 ] || [ $((directive & shellCompDirectiveNoFileComp)) -eq 0 ]; then",
  "            __" ++ name ++ "_debug \"Adding activeHelp delimiter\"",
  "            compadd -x \"--\"",
  "            hasActiveHelp=0",
  "        fi",
  "    fi",
  "",
  "    if [ $((directive & shellCompDirectiveNoSpace)) -ne 0 ]; then",
  "        __" ++ name ++ "_debug \"Activating nospace.\"",
  "        noSpace=\"-S ''\"",
  "    fi",
  "",
  "    if [ $((directive & shellCompDirectiveKeepOrder)) -ne 0 ]; then",
  "        __" ++ name ++ "_debug \"Activating keep order.\"",
  "        keepOrder=\"-V\"",
  "    fi",
  "",
  "    if [ $((directive & shellCompDirectiveFilterFileExt)) -ne 0 ]; then",
  "        # File extension filtering",
  "        local filteringCmd",
  "        filteringCmd='_files'",
  "        for filter in $\x7bcompletions[@]\x7d; do",
  "            if [ $\x7bfilter[1]\x7d != '*' ]; then",
  "                # zsh requires a glob pattern to do file filtering",
  "                filter=\"\\*.$filter\"",
  "            fi",
  "            filteringCmd+=\" -g $filter\"",
  "        done",
  "        filteringCmd+=\" $\x7bflagPrefix\x7d\"",
  "",
  "        __" ++ name ++ "_debug \"File filtering command: $filteringCmd\"",
  "        _arguments '*:filename:'\"$filteringCmd\"",
  "    elif [ $((directive & shellCompDirectiveFilterDirs)) -ne 0 ]; then",
  "        # File completion for directories only",
  "        local subdir",
  "        subdir=\"$\x7bcompletions[1]\x7d\"",
  "        if [ -n \"$subdir\" ]; then",
  "            __" ++ name ++ "_debug \"Listing directories in $subdir\"",
  "            pushd \"$\x7bsubdir\x7d\" >/dev/null 2>&1",
  "        else",
  "            __" ++ name ++ "_debug \"Listing directories in .\"",
  "        fi",
  "",
  "        local result",
  "        _arguments '*:dirname:_files -\x2f'\" $\x7bflagPrefix\x7d\"",
  "        result=$?",
  "        if [ -n \"$subdir\" ]; then",
  "            popd >/dev/null 2>&1",
  "        fi",
  "        return $result",
  "    else",
  "        __" ++ name ++ "_debug \"Calling _describe\"",
  "        if eval _describe $keepOrder \"completions\" completions $flagPrefix $noSpace; then",
  "            __" ++ name ++ "_debug \"_describe found some completions\"",
  "",
  "            # Return the success of having called _describe",
  "            return 0",
  "        else",
  "            __" ++ name ++ "_debug \"_describe did not find completions.\"",
  "            __" ++ name ++ "_debug \"Checking if we should do file completion.\"",
  "            if [ $((directive & shellCompDirectiveNoFileComp)) -ne 0 ]; then",
  "                __" ++ name ++ "_debug \"deactivating file completion\"",
  "",
  "                # We must return an error code here to let zsh know that there were no",
  "                # completions found by _describe; this is what will trigger other",
  "                # matching algorithms to attempt to find completions.",
  "                # For example zsh can match letters in the middle of words.",
  "                return 1",
  "            else",
  "                # Perform file completion",
  "                __" ++ name ++ "_debug \"Activating file completion\"",
  "",
  "                # We must return the result of this command, so it must be the",
  "                # last command, or else we must store its result to return it.",
  "                _arguments '*:filename:_files'\" $\x7bflagPrefix\x7d\"",
  "            fi",
  "        fi",
  "    fi",
  "\x7d",
  "",
  "# don't run the completion function when being source-ed or eval-ed",
  "if [ \"$funcstack[1]\" = \"_" ++ name ++ "\" ]; then",
  "    _" ++ name,
  "fi"]

/-- The fish script. Candidates for a flag value after an equals sign get the flag put
back in front of them. -/
def fish (name request : String) : String := lines [
  "# fish completion for " ++ padded name ++ " -*- shell-script -*-",
  "",
  "function __" ++ name ++ "_debug",
  "    set -l file \"$BASH_COMP_DEBUG_FILE\"",
  "    if test -n \"$file\"",
  "        echo \"$argv\" >> $file",
  "    end",
  "end",
  "",
  "function __" ++ name ++ "_perform_completion",
  "    __" ++ name ++ "_debug \"Starting __" ++ name ++ "_perform_completion\"",
  "",
  "    # Extract all args except the last one",
  "    set -l args (commandline -opc)",
  "    # Extract the last arg and escape it in case it is a space",
  "    set -l lastArg (string escape -- (commandline -ct))",
  "",
  "    __" ++ name ++ "_debug \"args: $args\"",
  "    __" ++ name ++ "_debug \"last arg: $lastArg\"",
  "",
  "    # Disable ActiveHelp which is not supported for fish shell",
  "    set -l requestComp \"" ++ activeHelpVar name ++ "=0 $args[1] " ++ request ++ " $args[2..-1] $lastArg\"",
  "",
  "    __" ++ name ++ "_debug \"Calling $requestComp\"",
  "    set -l results (eval $requestComp 2> /dev/null)",
  "",
  "    # Some programs may output extra empty lines after the directive.",
  "    # Let's ignore them or else it will break completion.",
  "    # Ref: https://github.com/spf13/cobra/issues/1279",
  "    for line in $results[-1..1]",
  "        if test (string trim -- $line) = \"\"",
  "            # Found an empty line, remove it",
  "            set results $results[1..-2]",
  "        else",
  "            # Found non-empty line, we have our proper output",
  "            break",
  "        end",
  "    end",
  "",
  "    set -l comps $results[1..-2]",
  "    set -l directiveLine $results[-1]",
  "",
  "    # For Fish, when completing a flag with an = (e.g., <program> -n=<TAB>)",
  "    # completions must be prefixed with the flag",
  "    set -l flagPrefix (string match -r -- '-.*=' \"$lastArg\")",
  "",
  "    __" ++ name ++ "_debug \"Comps: $comps\"",
  "    __" ++ name ++ "_debug \"DirectiveLine: $directiveLine\"",
  "    __" ++ name ++ "_debug \"flagPrefix: $flagPrefix\"",
  "",
  "    for comp in $comps",
  "        printf \"%s%s\\n\" \"$flagPrefix\" \"$comp\"",
  "    end",
  "",
  "    printf \"%s\\n\" \"$directiveLine\"",
  "end",
  "",
  "# this function limits calls to __" ++ name ++ "_perform_completion, by caching the result behind $__" ++ name ++ "_perform_completion_once_result",
  "function __" ++ name ++ "_perform_completion_once",
  "    __" ++ name ++ "_debug \"Starting __" ++ name ++ "_perform_completion_once\"",
  "",
  "    if test -n \"$__" ++ name ++ "_perform_completion_once_result\"",
  "        __" ++ name ++ "_debug \"Seems like a valid result already exists, skipping __" ++ name ++ "_perform_completion\"",
  "        return 0",
  "    end",
  "",
  "    set --global __" ++ name ++ "_perform_completion_once_result (__" ++ name ++ "_perform_completion)",
  "    if test -z \"$__" ++ name ++ "_perform_completion_once_result\"",
  "        __" ++ name ++ "_debug \"No completions, probably due to a failure\"",
  "        return 1",
  "    end",
  "",
  "    __" ++ name ++ "_debug \"Performed completions and set __" ++ name ++ "_perform_completion_once_result\"",
  "    return 0",
  "end",
  "",
  "# this function is used to clear the $__" ++ name ++ "_perform_completion_once_result variable after completions are run",
  "function __" ++ name ++ "_clear_perform_completion_once_result",
  "    __" ++ name ++ "_debug \"\"",
  "    __" ++ name ++ "_debug \"========= clearing previously set __" ++ name ++ "_perform_completion_once_result variable ==========\"",
  "    set --erase __" ++ name ++ "_perform_completion_once_result",
  "    __" ++ name ++ "_debug \"Successfully erased the variable __" ++ name ++ "_perform_completion_once_result\"",
  "end",
  "",
  "function __" ++ name ++ "_requires_order_preservation",
  "    __" ++ name ++ "_debug \"\"",
  "    __" ++ name ++ "_debug \"========= checking if order preservation is required ==========\"",
  "",
  "    __" ++ name ++ "_perform_completion_once",
  "    if test -z \"$__" ++ name ++ "_perform_completion_once_result\"",
  "        __" ++ name ++ "_debug \"Error determining if order preservation is required\"",
  "        return 1",
  "    end",
  "",
  "    set -l directive (string sub --start 2 $__" ++ name ++ "_perform_completion_once_result[-1])",
  "    __" ++ name ++ "_debug \"Directive is: $directive\"",
  "",
  "    set -l shellCompDirectiveKeepOrder 32",
  "    set -l keeporder (math (math --scale 0 $directive / $shellCompDirectiveKeepOrder) % 2)",
  "    __" ++ name ++ "_debug \"Keeporder is: $keeporder\"",
  "",
  "    if test $keeporder -ne 0",
  "        __" ++ name ++ "_debug \"This does require order preservation\"",
  "        return 0",
  "    end",
  "",
  "    __" ++ name ++ "_debug \"This doesn't require order preservation\"",
  "    return 1",
  "end",
  "",
  "",
  "# This function does two things:",
  "# - Obtain the completions and store them in the global __" ++ name ++ "_comp_results",
  "# - Return false if file completion should be performed",
  "function __" ++ name ++ "_prepare_completions",
  "    __" ++ name ++ "_debug \"\"",
  "    __" ++ name ++ "_debug \"========= starting completion logic ==========\"",
  "",
  "    # Start fresh",
  "    set --erase __" ++ name ++ "_comp_results",
  "",
  "    __" ++ name ++ "_perform_completion_once",
  "    __" ++ name ++ "_debug \"Completion results: $__" ++ name ++ "_perform_completion_once_result\"",
  "",
  "    if test -z \"$__" ++ name ++ "_perform_completion_once_result\"",
  "        __" ++ name ++ "_debug \"No completion, probably due to a failure\"",
  "        # Might as well do file completion, in case it helps",
  "        return 1",
  "    end",
  "",
  "    set -l directive (string sub --start 2 $__" ++ name ++ "_perform_completion_once_result[-1])",
  "    set --global __" ++ name ++ "_comp_results $__" ++ name ++ "_perform_completion_once_result[1..-2]",
  "",
  "    __" ++ name ++ "_debug \"Completions are: $__" ++ name ++ "_comp_results\"",
  "    __" ++ name ++ "_debug \"Directive is: $directive\"",
  "",
  "    set -l shellCompDirectiveError 1",
  "    set -l shellCompDirectiveNoSpace 2",
  "    set -l shellCompDirectiveNoFileComp 4",
  "    set -l shellCompDirectiveFilterFileExt 8",
  "    set -l shellCompDirectiveFilterDirs 16",
  "    if test -z \"$directive\"",
  "        set directive 0",
  "    end",
  "    set -l compErr (math (math --scale 0 $directive / $shellCompDirectiveError) % 2)",
  "    if test $compErr -eq 1",
  "        __" ++ name ++ "_debug \"Received error directive: aborting.\"",
  "        # Might as well do file completion, in case it helps",
  "        return 1",
  "    end",
  "",
  "    set -l filefilter (math (math --scale 0 $directive / $shellCompDirectiveFilterFileExt) % 2)",
  "    set -l dirfilter (math (math --scale 0 $directive / $shellCompDirectiveFilterDirs) % 2)",
  "    if test $filefilter -eq 1; or test $dirfilter -eq 1",
  "        __" ++ name ++ "_debug \"File extension filtering or directory filtering not supported\"",
  "        # Do full file completion instead",
  "        return 1",
  "    end",
  "",
  "    set -l nospace (math (math --scale 0 $directive / $shellCompDirectiveNoSpace) % 2)",
  "    set -l nofiles (math (math --scale 0 $directive / $shellCompDirectiveNoFileComp) % 2)",
  "",
  "    __" ++ name ++ "_debug \"nospace: $nospace, nofiles: $nofiles\"",
  "",
  "    # If we want to prevent a space, or if file completion is NOT disabled,",
  "    # we need to count the number of valid completions.",
  "    # To do so, we will filter on prefix as the completions we have received",
  "    # may not already be filtered so as to allow fish to match on different",
  "    # criteria than the prefix.",
  "    if test $nospace -ne 0; or test $nofiles -eq 0",
  "        set -l prefix (commandline -t | string escape --style=regex)",
  "        __" ++ name ++ "_debug \"prefix: $prefix\"",
  "",
  "        set -l completions (string match -r -- \"^$prefix.*\" $__" ++ name ++ "_comp_results)",
  "        set --global __" ++ name ++ "_comp_results $completions",
  "        __" ++ name ++ "_debug \"Filtered completions are: $__" ++ name ++ "_comp_results\"",
  "",
  "        # Important not to quote the variable for count to work",
  "        set -l numComps (count $__" ++ name ++ "_comp_results)",
  "        __" ++ name ++ "_debug \"numComps: $numComps\"",
  "",
  "        if test $numComps -eq 1; and test $nospace -ne 0",
  "            # We must first split on \\t to get rid of the descriptions to be",
  "            # able to check what the actual completion will be.",
  "            # We don't need descriptions anyway since there is only a single",
  "            # real completion which the shell will expand immediately.",
  "            set -l split (string split --max 1 \\t $__" ++ name ++ "_comp_results[1])",
  "",
  "            # Fish won't add a space if the completion ends with any",
  "            # of the following characters: @=/:.,",
  "            set -l lastChar (string sub -s -1 -- $split)",
  "            if not string match -r -q \"[@=/:.,]\" -- \"$lastChar\"",
  "                # In other cases, to support the \"nospace\" directive we trick the shell",
  "                # by outputting an extra, longer completion.",
  "                __" ++ name ++ "_debug \"Adding second completion to perform nospace directive\"",
  "                set --global __" ++ name ++ "_comp_results $split[1] $split[1].",
  "                __" ++ name ++ "_debug \"Completions are now: $__" ++ name ++ "_comp_results\"",
  "            end",
  "        end",
  "",
  "        if test $numComps -eq 0; and test $nofiles -eq 0",
  "            # To be consistent with bash and zsh, we only trigger file",
  "            # completion when there are no other completions",
  "            __" ++ name ++ "_debug \"Requesting file completion\"",
  "            return 1",
  "        end",
  "    end",
  "",
  "    return 0",
  "end",
  "",
  "# Since Fish completions are only loaded once the user triggers them, we trigger them ourselves",
  "# so we can properly delete any completions provided by another script.",
  "# Only do this if the program can be found, or else fish may print some errors; besides,",
  "# the existing completions will only be loaded if the program can be found.",
  "if type -q \"" ++ name ++ "\"",
  "    # The space after the program name is essential to trigger completion for the program",
  "    # and not completion of the program name itself.",
  "    # Also, we use '> /dev/null 2>&1' since '&>' is not supported in older versions of fish.",
  "    complete --do-complete \"" ++ name ++ " \" > /dev/null 2>&1",
  "end",
  "",
  "# Remove any pre-existing completions for the program since we will be handling all of them.",
  "complete -c " ++ name ++ " -e",
  "",
  "# this will get called after the two calls below and clear the $__" ++ name ++ "_perform_completion_once_result global",
  "complete -c " ++ name ++ " -n '__" ++ name ++ "_clear_perform_completion_once_result'",
  "# The call to __" ++ name ++ "_prepare_completions will setup __" ++ name ++ "_comp_results",
  "# which provides the program's completion choices.",
  "# If this doesn't require order preservation, we don't use the -k flag",
  "complete -c " ++ name ++ " -n 'not __" ++ name ++ "_requires_order_preservation && __" ++ name ++ "_prepare_completions' -f -a '$__" ++ name ++ "_comp_results'",
  "# otherwise we use the -k flag",
  "complete -k -c " ++ name ++ " -n '__" ++ name ++ "_requires_order_preservation && __" ++ name ++ "_prepare_completions' -f -a '$__" ++ name ++ "_comp_results'"]

/-- The PowerShell script, which registers a completer for the tool. -/
def powershell (name request : String) : String := lines [
  "# powershell completion for " ++ padded name ++ " -*- shell-script -*-",
  "",
  "function __" ++ name ++ "_debug \x7b",
  "    if ($env:BASH_COMP_DEBUG_FILE) \x7b",
  "        \"$args\" | Out-File -Append -FilePath \"$env:BASH_COMP_DEBUG_FILE\"",
  "    \x7d",
  "\x7d",
  "",
  "filter __" ++ name ++ "_escapeStringWithSpecialChars \x7b",
  "    $_ -replace '\\s|#|@|\\$|;|,|''|\\\x7b|\\\x7d|\\(|\\)|\"|`|\\||<|>|&','`$&'",
  "\x7d",
  "",
  "[scriptblock]$\x7b__" ++ name ++ "CompleterBlock\x7d = \x7b",
  "    param(",
  "            $WordToComplete,",
  "            $CommandAst,",
  "            $CursorPosition",
  "        )",
  "",
  "    # Get the current command line and convert into a string",
  "    $Command = $CommandAst.CommandElements",
  "    $Command = \"$Command\"",
  "",
  "    __" ++ name ++ "_debug \"\"",
  "    __" ++ name ++ "_debug \"========= starting completion logic ==========\"",
  "    __" ++ name ++ "_debug \"WordToComplete: $WordToComplete Command: $Command CursorPosition: $CursorPosition\"",
  "",
  "    # The user could have moved the cursor backwards on the command-line.",
  "    # We need to trigger completion from the $CursorPosition location, so we need",
  "    # to truncate the command-line ($Command) up to the $CursorPosition location.",
  "    # Make sure the $Command is longer then the $CursorPosition before we truncate.",
  "    # This happens because the $Command does not include the last space.",
  "    if ($Command.Length -gt $CursorPosition) \x7b",
  "        $Command=$Command.Substring(0,$CursorPosition)",
  "    \x7d",
  "    __" ++ name ++ "_debug \"Truncated command: $Command\"",
  "",
  "    $ShellCompDirectiveError=1",
  "    $ShellCompDirectiveNoSpace=2",
  "    $ShellCompDirectiveNoFileComp=4",
  "    $ShellCompDirectiveFilterFileExt=8",
  "    $ShellCompDirectiveFilterDirs=16",
  "    $ShellCompDirectiveKeepOrder=32",
  "",
  "    # Prepare the command to request completions for the program.",
  "    # Split the command at the first space to separate the program and arguments.",
  "    $Program,$Arguments = $Command.Split(\" \",2)",
  "",
  "    $RequestComp=\"$Program " ++ request ++ " $Arguments\"",
  "    __" ++ name ++ "_debug \"RequestComp: $RequestComp\"",
  "",
  "    # we cannot use $WordToComplete because it",
  "    # has the wrong values if the cursor was moved",
  "    # so use the last argument",
  "    if ($WordToComplete -ne \"\" ) \x7b",
  "        $WordToComplete = $Arguments.Split(\" \")[-1]",
  "    \x7d",
  "    __" ++ name ++ "_debug \"New WordToComplete: $WordToComplete\"",
  "",
  "",
  "    # Check for flag with equal sign",
  "    $IsEqualFlag = ($WordToComplete -Like \"--*=*\" )",
  "    if ( $IsEqualFlag ) \x7b",
  "        __" ++ name ++ "_debug \"Completing equal sign flag\"",
  "        # Remove the flag part",
  "        $Flag,$WordToComplete = $WordToComplete.Split(\"=\",2)",
  "    \x7d",
  "",
  "    if ( $WordToComplete -eq \"\" -And ( -Not $IsEqualFlag )) \x7b",
  "        # If the last parameter is complete (there is a space following it)",
  "        # We add an extra empty parameter so we can indicate this to the go method.",
  "        __" ++ name ++ "_debug \"Adding extra empty parameter\"",
  "        # PowerShell 7.2+ changed the way how the arguments are passed to executables,",
  "        # so for pre-7.2 or when Legacy argument passing is enabled we need to use",
  "        # `\"`\" to pass an empty argument, a \"\" or '' does not work!!!",
  "        if ($PSVersionTable.PsVersion -lt [version]'7.2.0' -or",
  "            ($PSVersionTable.PsVersion -lt [version]'7.3.0' -and -not [ExperimentalFeature]::IsEnabled(\"PSNativeCommandArgumentPassing\")) -or",
  "            (($PSVersionTable.PsVersion -ge [version]'7.3.0' -or [ExperimentalFeature]::IsEnabled(\"PSNativeCommandArgumentPassing\")) -and",
  "              $PSNativeCommandArgumentPassing -eq 'Legacy')) \x7b",
  "             $RequestComp=\"$RequestComp\" + ' `\"`\"'",
  "        \x7d else \x7b",
  "             $RequestComp=\"$RequestComp\" + ' \"\"'",
  "        \x7d",
  "    \x7d",
  "",
  "    __" ++ name ++ "_debug \"Calling $RequestComp\"",
  "    # First disable ActiveHelp which is not supported for Powershell",
  "    $\x7benv:" ++ activeHelpVar name ++ "\x7d=0",
  "",
  "    #call the command store the output in $out and redirect stderr and stdout to null",
  "    # $Out is an array contains each line per element",
  "    Invoke-Expression -OutVariable out \"$RequestComp\" 2>&1 | Out-Null",
  "",
  "    # get directive from last line",
  "    [int]$Directive = $Out[-1].TrimStart(':')",
  "    if ($Directive -eq \"\") \x7b",
  "        # There is no directive specified",
  "        $Directive = 0",
  "    \x7d",
  "    __" ++ name ++ "_debug \"The completion directive is: $Directive\"",
  "",
  "    # remove directive (last element) from out",
  "    $Out = $Out | Where-Object \x7b $_ -ne $Out[-1] \x7d",
  "    __" ++ name ++ "_debug \"The completions are: $Out\"",
  "",
  "    if (($Directive -band $ShellCompDirectiveError) -ne 0 ) \x7b",
  "        # Error code.  No completion.",
  "        __" ++ name ++ "_debug \"Received error from custom completion go code\"",
  "        return",
  "    \x7d",
  "",
  "    $Longest = 0",
  "    [Array]$Values = $Out | ForEach-Object \x7b",
  "        #Split the output in name and description",
  "        $Name, $Description = $_.Split(\"`t\",2)",
  "        __" ++ name ++ "_debug \"Name: $Name Description: $Description\"",
  "",
  "        # Look for the longest completion so that we can format things nicely",
  "        if ($Longest -lt $Name.Length) \x7b",
  "            $Longest = $Name.Length",
  "        \x7d",
  "",
  "        # Set the description to a one space string if there is none set.",
  "        # This is needed because the CompletionResult does not accept an empty string as argument",
  "        if (-Not $Description) \x7b",
  "            $Description = \" \"",
  "        \x7d",
  "        New-Object -TypeName PSCustomObject -Property @\x7b",
  "            Name = \"$Name\"",
  "            Description = \"$Description\"",
  "        \x7d",
  "    \x7d",
  "",
  "",
  "    $Space = \" \"",
  "    if (($Directive -band $ShellCompDirectiveNoSpace) -ne 0 ) \x7b",
  "        # remove the space here",
  "        __" ++ name ++ "_debug \"ShellCompDirectiveNoSpace is called\"",
  "        $Space = \"\"",
  "    \x7d",
  "",
  "    if ((($Directive -band $ShellCompDirectiveFilterFileExt) -ne 0 ) -or",
  "       (($Directive -band $ShellCompDirectiveFilterDirs) -ne 0 ))  \x7b",
  "        __" ++ name ++ "_debug \"ShellCompDirectiveFilterFileExt ShellCompDirectiveFilterDirs are not supported\"",
  "",
  "        # return here to prevent the completion of the extensions",
  "        return",
  "    \x7d",
  "",
  "    $Values = $Values | Where-Object \x7b",
  "        # filter the result",
  "        $_.Name -like \"$WordToComplete*\"",
  "",
  "        # Join the flag back if we have an equal sign flag",
  "        if ( $IsEqualFlag ) \x7b",
  "            __" ++ name ++ "_debug \"Join the equal sign flag back to the completion value\"",
  "            $_.Name = $Flag + \"=\" + $_.Name",
  "        \x7d",
  "    \x7d",
  "",
  "    # we sort the values in ascending order by name if keep order isn't passed",
  "    if (($Directive -band $ShellCompDirectiveKeepOrder) -eq 0 ) \x7b",
  "        $Values = $Values | Sort-Object -Property Name",
  "    \x7d",
  "",
  "    if (($Directive -band $ShellCompDirectiveNoFileComp) -ne 0 ) \x7b",
  "        __" ++ name ++ "_debug \"ShellCompDirectiveNoFileComp is called\"",
  "",
  "        if ($Values.Length -eq 0) \x7b",
  "            # Just print an empty string here so the",
  "            # shell does not start to complete paths.",
  "            # We cannot use CompletionResult here because",
  "            # it does not accept an empty string as argument.",
  "            \"\"",
  "            return",
  "        \x7d",
  "    \x7d",
  "",
  "    # Get the current mode",
  "    $Mode = (Get-PSReadLineKeyHandler | Where-Object \x7b$_.Key -eq \"Tab\" \x7d).Function",
  "    __" ++ name ++ "_debug \"Mode: $Mode\"",
  "",
  "    $Values | ForEach-Object \x7b",
  "",
  "        # store temporary because switch will overwrite $_",
  "        $comp = $_",
  "",
  "        # PowerShell supports three different completion modes",
  "        # - TabCompleteNext (default windows style - on each key press the next option is displayed)",
  "        # - Complete (works like bash)",
  "        # - MenuComplete (works like zsh)",
  "        # You set the mode with Set-PSReadLineKeyHandler -Key Tab -Function <mode>",
  "",
  "        # CompletionResult Arguments:",
  "        # 1) CompletionText text to be used as the auto completion result",
  "        # 2) ListItemText   text to be displayed in the suggestion list",
  "        # 3) ResultType     type of completion result",
  "        # 4) ToolTip        text for the tooltip with details about the object",
  "",
  "        switch ($Mode) \x7b",
  "",
  "            # bash like",
  "            \"Complete\" \x7b",
  "",
  "                if ($Values.Length -eq 1) \x7b",
  "                    __" ++ name ++ "_debug \"Only one completion left\"",
  "",
  "                    # insert space after value",
  "                    $CompletionText = $($comp.Name | __" ++ name ++ "_escapeStringWithSpecialChars) + $Space",
  "                    if ($ExecutionContext.SessionState.LanguageMode -eq \"FullLanguage\")\x7b",
  "                        [System.Management.Automation.CompletionResult]::new($CompletionText, \"$($comp.Name)\", 'ParameterValue', \"$($comp.Description)\")",
  "                    \x7d else \x7b",
  "                        $CompletionText",
  "                    \x7d",
  "",
  "                \x7d else \x7b",
  "                    # Add the proper number of spaces to align the descriptions",
  "                    while($comp.Name.Length -lt $Longest) \x7b",
  "                        $comp.Name = $comp.Name + \" \"",
  "                    \x7d",
  "",
  "                    # Check for empty description and only add parentheses if needed",
  "                    if ($($comp.Description) -eq \" \" ) \x7b",
  "                        $Description = \"\"",
  "                    \x7d else \x7b",
  "                        $Description = \"  ($($comp.Description))\"",
  "                    \x7d",
  "",
  "                    $CompletionText = \"$($comp.Name)$Description\"",
  "                    if ($ExecutionContext.SessionState.LanguageMode -eq \"FullLanguage\")\x7b",
  "                        [System.Management.Automation.CompletionResult]::new($CompletionText, \"$($comp.Name)$Description\", 'ParameterValue', \"$($comp.Description)\")",
  "                    \x7d else \x7b",
  "                        $CompletionText",
  "                    \x7d",
  "                \x7d",
  "             \x7d",
  "",
  "            # zsh like",
  "            \"MenuComplete\" \x7b",
  "                # insert space after value",
  "                # MenuComplete will automatically show the ToolTip of",
  "                # the highlighted value at the bottom of the suggestions.",
  "",
  "                $CompletionText = $($comp.Name | __" ++ name ++ "_escapeStringWithSpecialChars) + $Space",
  "                if ($ExecutionContext.SessionState.LanguageMode -eq \"FullLanguage\")\x7b",
  "                    [System.Management.Automation.CompletionResult]::new($CompletionText, \"$($comp.Name)\", 'ParameterValue', \"$($comp.Description)\")",
  "                \x7d else \x7b",
  "                    $CompletionText",
  "                \x7d",
  "            \x7d",
  "",
  "            # TabCompleteNext and in case we get something unknown",
  "            Default \x7b",
  "                # Like MenuComplete but we don't want to add a space here because",
  "                # the user need to press space anyway to get the completion.",
  "                # Description will not be shown because that's not possible with TabCompleteNext",
  "",
  "                $CompletionText = $($comp.Name | __" ++ name ++ "_escapeStringWithSpecialChars)",
  "                if ($ExecutionContext.SessionState.LanguageMode -eq \"FullLanguage\")\x7b",
  "                    [System.Management.Automation.CompletionResult]::new($CompletionText, \"$($comp.Name)\", 'ParameterValue', \"$($comp.Description)\")",
  "                \x7d else \x7b",
  "                    $CompletionText",
  "                \x7d",
  "            \x7d",
  "        \x7d",
  "",
  "    \x7d",
  "\x7d",
  "",
  "Register-ArgumentCompleter -CommandName '" ++ name ++ "' -ScriptBlock $\x7b__" ++ name ++ "CompleterBlock\x7d"]

end KeyedComposite.Cli.ShellScript
