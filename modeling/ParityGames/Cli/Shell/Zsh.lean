import ParityGames.Cli.Shell.Names

/-!
# The zsh completion script

The zsh script asks the program for candidates with `__complete` and hands
them to zsh with their descriptions, honouring the directive bits.
-/

namespace ParityGames

namespace Cli

namespace Shell

/-- The zsh completion script of a program. -/
def zshScript (name : String) : String := String.join [
  "#compdef " ++ name ++ "\n",
  "compdef _" ++ name ++ " " ++ name ++ "\n",
  "\n",
  "# zsh completion for " ++ (headerName name) ++ " -*- shell-script -*-\n",
  "\n",
  "__" ++ name ++ "_debug()\n",
  "\x7b\n",
  "    local file=\"$BASH_COMP_DEBUG_FILE\"\n",
  "    if [[ -n $\x7bfile\x7d ]]; then\n",
  "        echo \"$*\" >> \"$\x7bfile\x7d\"\n",
  "    fi\n",
  "\x7d\n",
  "\n",
  "_" ++ name ++ "()\n",
  "\x7b\n",
  "    local shellCompDirectiveError=1\n",
  "    local shellCompDirectiveNoSpace=2\n",
  "    local shellCompDirectiveNoFileComp=4\n",
  "    local shellCompDirectiveFilterFileExt=8\n",
  "    local shellCompDirectiveFilterDirs=16\n",
  "    local shellCompDirectiveKeepOrder=32\n",
  "\n",
  "    local lastParam lastChar flagPrefix requestComp out directive comp lastComp noSpace keepOrder\n",
  "    local -a completions\n",
  "\n",
  "    __" ++ name ++ "_debug \"\\n========= starting completion logic ==========\"\n",
  "    __" ++ name ++ "_debug \"CURRENT: $\x7bCURRENT\x7d, words[*]: $\x7bwords[*]\x7d\"\n",
  "\n",
  "    # The user could have moved the cursor backwards on the command-line.\n",
  "    # We need to trigger completion from the $CURRENT location, so we need\n",
  "    # to truncate the command-line ($words) up to the $CURRENT location.\n",
  "    # (We cannot use $CURSOR as its value does not work when a command is an alias.)\n",
  "    words=(\"$\x7b=words[1,CURRENT]\x7d\")\n",
  "    __" ++ name ++ "_debug \"Truncated words[*]: $\x7bwords[*]\x7d,\"\n",
  "\n",
  "    lastParam=$\x7bwords[-1]\x7d\n",
  "    lastChar=$\x7blastParam[-1]\x7d\n",
  "    __" ++ name ++ "_debug \"lastParam: $\x7blastParam\x7d, lastChar: $\x7blastChar\x7d\"\n",
  "\n",
  "    # For zsh, when completing a flag with an = (e.g., " ++ name ++ " -n=<TAB>)\n",
  "    # completions must be prefixed with the flag\n",
  "    setopt local_options BASH_REMATCH\n",
  "    if [[ \"$\x7blastParam\x7d\" =~ '-.*=' ]]; then\n",
  "        # We are dealing with a flag with an =\n",
  "        flagPrefix=\"-P $\x7bBASH_REMATCH\x7d\"\n",
  "    fi\n",
  "\n",
  "    # Prepare the command to obtain completions\n",
  "    requestComp=\"$\x7bwords[1]\x7d __complete $\x7bwords[2,-1]\x7d\"\n",
  "    if [ \"$\x7blastChar\x7d\" = \"\" ]; then\n",
  "        # If the last parameter is complete (there is a space following it)\n",
  "        # We add an extra empty parameter so we can indicate this to the go completion code.\n",
  "        __" ++ name ++ "_debug \"Adding extra empty parameter\"\n",
  "        requestComp=\"$\x7brequestComp\x7d \\\"\\\"\"\n",
  "    fi\n",
  "\n",
  "    __" ++ name ++ "_debug \"About to call: eval $\x7brequestComp\x7d\"\n",
  "\n",
  "    # Use eval to handle any environment variables and such\n",
  "    out=$(eval $\x7brequestComp\x7d 2>/dev/null)\n",
  "    __" ++ name ++ "_debug \"completion output: $\x7bout\x7d\"\n",
  "\n",
  "    # Extract the directive integer following a : from the last line\n",
  "    local lastLine\n",
  "    while IFS='\\n' read -r line; do\n",
  "        lastLine=$\x7bline\x7d\n",
  "    done < <(printf \"%s\\n\" \"$\x7bout[@]\x7d\")\n",
  "    __" ++ name ++ "_debug \"last line: $\x7blastLine\x7d\"\n",
  "\n",
  "    if [ \"$\x7blastLine[1]\x7d\" = : ]; then\n",
  "        directive=$\x7blastLine[2,-1]\x7d\n",
  "        # Remove the directive including the : and the newline\n",
  "        local suffix\n",
  "        (( suffix=$\x7b#lastLine\x7d+2))\n",
  "        out=$\x7bout[1,-$suffix]\x7d\n",
  "    else\n",
  "        # There is no directive specified.  Leave $out as is.\n",
  "        __" ++ name ++ "_debug \"No directive found.  Setting do default\"\n",
  "        directive=0\n",
  "    fi\n",
  "\n",
  "    __" ++ name ++ "_debug \"directive: $\x7bdirective\x7d\"\n",
  "    __" ++ name ++ "_debug \"completions: $\x7bout\x7d\"\n",
  "    __" ++ name ++ "_debug \"flagPrefix: $\x7bflagPrefix\x7d\"\n",
  "\n",
  "    if [ $((directive & shellCompDirectiveError)) -ne 0 ]; then\n",
  "        __" ++ name ++ "_debug \"Completion received error. Ignoring completions.\"\n",
  "        return\n",
  "    fi\n",
  "\n",
  "    local activeHelpMarker=\"_activeHelp_ \"\n",
  "    local endIndex=$\x7b#activeHelpMarker\x7d\n",
  "    local startIndex=$(($\x7b#activeHelpMarker\x7d+1))\n",
  "    local hasActiveHelp=0\n",
  "    while IFS='\\n' read -r comp; do\n",
  "        # Check if this is an activeHelp statement (i.e., prefixed with $activeHelpMarker)\n",
  "        if [ \"$\x7bcomp[1,$endIndex]\x7d\" = \"$activeHelpMarker\" ];then\n",
  "            __" ++ name ++ "_debug \"ActiveHelp found: $comp\"\n",
  "            comp=\"$\x7bcomp[$startIndex,-1]\x7d\"\n",
  "            if [ -n \"$comp\" ]; then\n",
  "                compadd -x \"$\x7bcomp\x7d\"\n",
  "                __" ++ name ++ "_debug \"ActiveHelp will need delimiter\"\n",
  "                hasActiveHelp=1\n",
  "            fi\n",
  "\n",
  "            continue\n",
  "        fi\n",
  "\n",
  "        if [ -n \"$comp\" ]; then\n",
  "            # If requested, completions are returned with a description.\n",
  "            # The description is preceded by a TAB character.\n",
  "            # For zsh's _describe, we need to use a : instead of a TAB.\n",
  "            # We first need to escape any : as part of the completion itself.\n",
  "            comp=$\x7bcomp//:/\\\\:\x7d\n",
  "\n",
  "            local tab=\"$(printf '\\t')\"\n",
  "            comp=$\x7bcomp//$tab/:\x7d\n",
  "\n",
  "            __" ++ name ++ "_debug \"Adding completion: $\x7bcomp\x7d\"\n",
  "            completions+=$\x7bcomp\x7d\n",
  "            lastComp=$comp\n",
  "        fi\n",
  "    done < <(printf \"%s\\n\" \"$\x7bout[@]\x7d\")\n",
  "\n",
  "    # Add a delimiter after the activeHelp statements, but only if:\n",
  "    # - there are completions following the activeHelp statements, or\n",
  "    # - file completion will be performed (so there will be choices after the activeHelp)\n",
  "    if [ $hasActiveHelp -eq 1 ]; then\n",
  "        if [ $\x7b#completions\x7d -ne 0 ] || [ $((directive & shellCompDirectiveNoFileComp)) -eq 0 ]; then\n",
  "            __" ++ name ++ "_debug \"Adding activeHelp delimiter\"\n",
  "            compadd -x \"--\"\n",
  "            hasActiveHelp=0\n",
  "        fi\n",
  "    fi\n",
  "\n",
  "    if [ $((directive & shellCompDirectiveNoSpace)) -ne 0 ]; then\n",
  "        __" ++ name ++ "_debug \"Activating nospace.\"\n",
  "        noSpace=\"-S ''\"\n",
  "    fi\n",
  "\n",
  "    if [ $((directive & shellCompDirectiveKeepOrder)) -ne 0 ]; then\n",
  "        __" ++ name ++ "_debug \"Activating keep order.\"\n",
  "        keepOrder=\"-V\"\n",
  "    fi\n",
  "\n",
  "    if [ $((directive & shellCompDirectiveFilterFileExt)) -ne 0 ]; then\n",
  "        # File extension filtering\n",
  "        local filteringCmd\n",
  "        filteringCmd='_files'\n",
  "        for filter in $\x7bcompletions[@]\x7d; do\n",
  "            if [ $\x7bfilter[1]\x7d != '*' ]; then\n",
  "                # zsh requires a glob pattern to do file filtering\n",
  "                filter=\"\\*.$filter\"\n",
  "            fi\n",
  "            filteringCmd+=\" -g $filter\"\n",
  "        done\n",
  "        filteringCmd+=\" $\x7bflagPrefix\x7d\"\n",
  "\n",
  "        __" ++ name ++ "_debug \"File filtering command: $filteringCmd\"\n",
  "        _arguments '*:filename:'\"$filteringCmd\"\n",
  "    elif [ $((directive & shellCompDirectiveFilterDirs)) -ne 0 ]; then\n",
  "        # File completion for directories only\n",
  "        local subdir\n",
  "        subdir=\"$\x7bcompletions[1]\x7d\"\n",
  "        if [ -n \"$subdir\" ]; then\n",
  "            __" ++ name ++ "_debug \"Listing directories in $subdir\"\n",
  "            pushd \"$\x7bsubdir\x7d\" >/dev/null 2>&1\n",
  "        else\n",
  "            __" ++ name ++ "_debug \"Listing directories in .\"\n",
  "        fi\n",
  "\n",
  "        local result\n",
  "        _arguments '*:dirname:_files -/'\" $\x7bflagPrefix\x7d\"\n",
  "        result=$?\n",
  "        if [ -n \"$subdir\" ]; then\n",
  "            popd >/dev/null 2>&1\n",
  "        fi\n",
  "        return $result\n",
  "    else\n",
  "        __" ++ name ++ "_debug \"Calling _describe\"\n",
  "        if eval _describe $keepOrder \"completions\" completions $flagPrefix $noSpace; then\n",
  "            __" ++ name ++ "_debug \"_describe found some completions\"\n",
  "\n",
  "            # Return the success of having called _describe\n",
  "            return 0\n",
  "        else\n",
  "            __" ++ name ++ "_debug \"_describe did not find completions.\"\n",
  "            __" ++ name ++ "_debug \"Checking if we should do file completion.\"\n",
  "            if [ $((directive & shellCompDirectiveNoFileComp)) -ne 0 ]; then\n",
  "                __" ++ name ++ "_debug \"deactivating file completion\"\n",
  "\n",
  "                # We must return an error code here to let zsh know that there were no\n",
  "                # completions found by _describe; this is what will trigger other\n",
  "                # matching algorithms to attempt to find completions.\n",
  "                # For example zsh can match letters in the middle of words.\n",
  "                return 1\n",
  "            else\n",
  "                # Perform file completion\n",
  "                __" ++ name ++ "_debug \"Activating file completion\"\n",
  "\n",
  "                # We must return the result of this command, so it must be the\n",
  "                # last command, or else we must store its result to return it.\n",
  "                _arguments '*:filename:_files'\" $\x7bflagPrefix\x7d\"\n",
  "            fi\n",
  "        fi\n",
  "    fi\n",
  "\x7d\n",
  "\n",
  "# don't run the completion function when being source-ed or eval-ed\n",
  "if [ \"$funcstack[1]\" = \"_" ++ name ++ "\" ]; then\n",
  "    _" ++ name ++ "\n",
  "fi\n"]

end Shell

end Cli

end ParityGames
